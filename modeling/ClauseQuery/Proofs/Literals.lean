import ClauseQuery.Proofs.Conditions
import ClauseQuery.Proofs.Numerals
import ClauseQuery.Proofs.Reading

/-!
# Reading literals

Scalars with one literal are the same but for flags in place of integers, and large numbers in place of
integers that round to them (`Value.HasLiteral.agrees`).
-/

namespace ClauseQuery

/-- The sign is read apart from the value, as `-0.0` is not `0.0`. -/
structure Numeral.ReadsAs (n : Numeral) (x : Binary64) : Prop where
  sign : x.negative = n.negative
  nearest : Binary64.IsNearest n.value x

theorem Numeral.ReadsAs.unique {n : Numeral} {x y : Binary64} (hx : n.ReadsAs x) (hy : n.ReadsAs y) :
    x = y :=
  hx.nearest.unique hy.nearest (hx.sign.trans hy.sign.symm)

theorem Binary64.readsAs_of_plain {x : Binary64} (hx : x.isFinite = true) {n : Numeral}
    (h : x.plain.toList = n.text) : n.ReadsAs x := by
  obtain ⟨m, hm, hsign, hnearest, -⟩ := x.exists_numeral
  have hmn : m = n := Numeral.text_injective (hm.symm.trans h)
  rw [← hmn]
  exact ⟨hsign.symm, hnearest hx⟩

theorem Value.literal_real_eq_ok {x : Binary64} {s : String} :
    (real x).literal = .ok s ↔ x.isFinite = true ∧ s = x.plain := by
  simp [literal, ite_eq_iff, pure_eq_ok, throw_ne_ok, @eq_comm _ s]

theorem Value.literal_real_eq_error {x : Binary64} {f : Fault} :
    (real x).literal = .error f ↔ x.isFinite = false ∧ f = .notFinite x := by
  simp [literal, ite_eq_iff, pure_ne_error, throw_eq_error]

/-- **The literal of a finite number is a numeral, and reads as this number only.** No other number has
a literal. -/
theorem real_literal_reads_back (x : Binary64) :
    ((∃ f, (Value.real x).literal = .error f) ↔ x.isFinite = false) ∧
    (∀ f, (Value.real x).literal = .error f → f.kind = .invalid ∧ f.param = some "value" ∧
      f.message = "Float value '" ++ x.compact ++ "' is not a finite number.") ∧
    (x.isFinite = true → ∃ s, (Value.real x).literal = .ok s ∧ (∃ n : Numeral, s.toList = n.text) ∧
      ∀ n : Numeral, s.toList = n.text → n.negative = x.negative ∧ ∀ y, n.ReadsAs y ↔ y = x) ∧
    ∀ y s, (Value.real x).literal = .ok s → (Value.real y).literal = .ok s → x = y := by
  simp only [Value.literal_real_eq_ok, Value.literal_real_eq_error]
  refine ⟨by simp, ?_, fun hx => ?_, ?_⟩
  · rintro f ⟨-, rfl⟩
    exact ⟨rfl, rfl, rfl⟩
  · obtain ⟨n, hn, -⟩ := x.exists_numeral
    refine ⟨x.plain, ⟨hx, rfl⟩, ⟨n, hn⟩, fun m hm => ?_⟩
    have hreads := Binary64.readsAs_of_plain hx hm
    refine ⟨hreads.sign.symm, fun y => ⟨fun hy => hy.unique hreads, ?_⟩⟩
    rintro rfl
    exact hreads
  · rintro y s ⟨hx, rfl⟩ ⟨hy, hs⟩
    exact Binary64.plain_inj hx hy hs

/-- No number is `10 ^ 23`; the nearest one has it for a literal. -/
theorem real_literal_reads_back_rounded :
    let x : Binary64 := ⟨true, 1099, 1456864850168566⟩
    (Value.real x).literal = .ok "-100000000000000000000000" ∧
    ∀ y, (Numeral.ofInt (-100000000000000000000000)).ReadsAs y ↔ y = x := by
  intro x
  have hplain : x.plain = toString (-100000000000000000000000 : Int) := by decide +kernel
  obtain ⟨-, -, hok, -⟩ := real_literal_reads_back x
  obtain ⟨s, hs, -, hreads⟩ := hok (by decide)
  obtain ⟨-, rfl⟩ := Value.literal_real_eq_ok.1 hs
  rw [hplain] at hs hreads
  exact ⟨hs, (hreads _ (Numeral.text_ofInt _).symm).2⟩

/-! ## What a scalar is written from -/

namespace Value

def asInteger? : Value → Option Int
  | flag b => some (if b then 1 else 0)
  | integer n => some n
  | _ => none

/-- What two scalars with one literal can be. -/
inductive Agrees : Value → Value → Prop
  | words {w w' : Word} (h : w.display = w'.display) : Agrees (word w) (word w')
  | integers {v v' : Value} {n : Int} (h : v.asInteger? = some n) (h' : v'.asInteger? = some n) :
    Agrees v v'
  | reals (x : Binary64) : Agrees (real x) (real x)
  | rounded {n : Int} {x : Binary64} (hn : Binary64.IsNearest n x) (hx : 10 ^ 16 ≤ |x.value|) :
    Agrees (integer n) (real x)
  | unrounded {n : Int} {x : Binary64} (hn : Binary64.IsNearest n x) (hx : 10 ^ 16 ≤ |x.value|) :
    Agrees (real x) (integer n)

theorem Agrees.symm {v v' : Value} (h : v.Agrees v') : v'.Agrees v := by
  cases h with
  | words h => exact .words h.symm
  | integers h h' => exact .integers h' h
  | reals x => exact .reals x
  | rounded hn hx => exact .unrounded hn hx
  | unrounded hn hx => exact .rounded hn hx

structure HasLiteral (v : Value) (s : String) : Prop where
  scalar : v.isScalar = true
  literal : v.literal = .ok s

inductive Writes (s : String) : Value → Prop
  | word {w : Word} (h : s = quote w.display) : Writes s (word w)
  | integer {v : Value} {n : Int} (hv : v.asInteger? = some n) (h : s = toString n) : Writes s v
  | real {x : Binary64} (hx : x.isFinite = true) (h : s = x.plain) : Writes s (real x)

theorem HasLiteral.writes {v : Value} {s : String} (h : v.HasLiteral s) : Writes s v := by
  obtain ⟨hv, h⟩ := h
  cases v with
  | flag b =>
    refine .integer rfl ?_
    rw [← Except.ok.inj h]
    cases b <;> rfl
  | integer n => exact .integer rfl (integerText_eq_ok.1 h).2.symm
  | real x =>
    obtain ⟨hx, hs⟩ := literal_real_eq_ok.1 h
    exact .real hx hs
  | word w => exact .word (Except.ok.inj h).symm
  | _ => cases hv

end Value

/-! ## Integers and numbers with one text -/

namespace Binary64

def tenToSixteen (negative : Bool) : Binary64 :=
  ⟨negative, ⟨1076, by decide⟩, ⟨496400372629504, by decide⟩⟩

theorem absolute_tenToSixteen (negative : Bool) : (tenToSixteen negative).absolute = 10 ^ 16 := by
  have hsig : (tenToSixteen negative).significand = 5000000000000000 := by
    cases negative <;> rfl
  have hscale : (tenToSixteen negative).scale = 1 := by
    cases negative <;> rfl
  rw [absolute, ulp, hsig, hscale]
  norm_num

/-- As `10 ^ 16` is a number, nothing beyond it rounds to a number before it. -/
theorem IsNearest.le_abs {r : ℚ} {x : Binary64} (h : IsNearest r x) (hr : 10 ^ 16 ≤ |r|) :
    10 ^ 16 ≤ |x.value| := by
  obtain ⟨s, hs⟩ : ∃ s, signed s r = |r| := by
    rcases abs_choice r with h | h
    · exact ⟨false, h.symm⟩
    · exact ⟨true, h.symm⟩
  have hgap : |r - (tenToSixteen s).value| = |r| - 10 ^ 16 := by
    rw [abs_sub_value, absolute_tenToSixteen]
    change |signed s r - 10 ^ 16| = |r| - 10 ^ 16
    rw [hs, abs_of_nonneg (by linarith)]
  have hnear := h.nearest (tenToSixteen s) rfl
  have hle := abs_sub_abs_le_abs_sub r x.value
  linarith

theorem isNearest_of_plain_eq {n : Int} {x : Binary64} (hx : x.isFinite = true)
    (h : toString n = x.plain) : IsNearest n x ∧ 10 ^ 16 ≤ |(n : ℚ)| := by
  obtain ⟨m, hm, -, hnear, hbig⟩ := x.exists_numeral
  have hmn : m = Numeral.ofInt n := by
    refine Numeral.text_injective ?_
    rw [Numeral.text_ofInt, h, hm]
  have hn := hnear hx
  rw [hmn, Numeral.value_ofInt] at hn
  rw [hmn] at hbig
  refine ⟨hn, ?_⟩
  rw [← Numeral.value_ofInt, Numeral.value, abs_signed, abs_of_nonneg (Numeral.absolute_nonneg _)]
  exact hbig rfl

end Binary64

/-! ## Scalars with one literal -/

theorem quote_ne {s t : String} (ht : IsPlain t) : quote s ≠ t := by
  intro h
  have hmem : '"' ∈ t.toList := by
    rw [← h, quote, String.toList_ofList]
    exact List.mem_cons_self ..
  exact (ht '"' hmem).1 rfl

namespace Value

theorem toString_inj {m n : Int} (h : toString m = toString n) : m = n := by
  have hmn : Numeral.ofInt m = Numeral.ofInt n := by
    refine Numeral.text_injective ?_
    rw [Numeral.text_ofInt, Numeral.text_ofInt, h]
  have hv : (m : ℚ) = n := by
    rw [← Numeral.value_ofInt, hmn, Numeral.value_ofInt]
  exact_mod_cast hv

theorem agrees_of_integer {v : Value} {n : Int} {x : Binary64} (hv : v.asInteger? = some n)
    (hx : x.isFinite = true) (h : toString n = x.plain) : v.Agrees (real x) := by
  obtain ⟨hn, hbig⟩ := Binary64.isNearest_of_plain_eq hx h
  cases v with
  | flag b =>
    -- no flag is that large
    cases hv
    cases b <;> norm_num at hbig
  | integer m =>
    cases hv
    exact .rounded hn (hn.le_abs hbig)
  | _ => cases hv

theorem Writes.agrees {v v' : Value} {s : String} (h : Writes s v) (h' : Writes s v') : v.Agrees v' := by
  cases h with
  | word hs =>
    cases h' with
    | word hs' => exact .words (Query.quote_inj _ _ (hs.symm.trans hs'))
    | integer _ hs' => exact absurd (hs.symm.trans hs') (quote_ne (isPlain_toString _))
    | real _ hs' => exact absurd (hs.symm.trans hs') (quote_ne (isPlain_plain _))
  | integer hv hs =>
    cases h' with
    | word hs' => exact absurd (hs'.symm.trans hs) (quote_ne (isPlain_toString _))
    | integer hv' hs' =>
      have hn := toString_inj (hs.symm.trans hs')
      rw [← hn] at hv'
      exact .integers hv hv'
    | real hx hs' => exact agrees_of_integer hv hx (hs.symm.trans hs')
  | real hx hs =>
    cases h' with
    | word hs' => exact absurd (hs'.symm.trans hs) (quote_ne (isPlain_plain _))
    | integer hv hs' => exact (agrees_of_integer hv hx (hs'.symm.trans hs)).symm
    | real hy hs' =>
      rw [Binary64.plain_inj hx hy (hs.symm.trans hs')]
      exact .reals _

theorem HasLiteral.agrees {v v' : Value} {s : String} (h : v.HasLiteral s) (h' : v'.HasLiteral s) :
    v.Agrees v' :=
  h.writes.agrees h'.writes

end Value

end ClauseQuery
