import ClauseQuery.Decimal.Layout
import ClauseQuery.Proofs.ShortestDecimal

/-!
# Numbers in plain notation

A numeral is taken apart in one way (`Numeral.text_injective`), and has a point unless it is an integer or
at least `10 ^ 16`.
-/

namespace ClauseQuery

/-! ## Texts that end at a head -/

theorem takeWhile_append_of_head {p : Char → Bool} {s t : List Char} (hs : ∀ c ∈ s, p c = true)
    (ht : ∀ c ∈ t.head?, p c = false) : (s ++ t).takeWhile p = s := by
  rw [List.takeWhile_append_of_pos hs]
  cases t with
  | nil => rw [List.takeWhile_nil, List.append_nil]
  | cons c t =>
    have hc := ht c rfl
    rw [List.takeWhile_cons, hc]
    exact List.append_nil s

theorem append_inj_of_head {p : Char → Bool} {s s' t t' : List Char} (hs : ∀ c ∈ s, p c = true)
    (hs' : ∀ c ∈ s', p c = true) (ht : ∀ c ∈ t.head?, p c = false) (ht' : ∀ c ∈ t'.head?, p c = false)
    (h : s ++ t = s' ++ t') : s = s' ∧ t = t' := by
  have hss : s = s' := by
    rw [← takeWhile_append_of_head hs ht, h, takeWhile_append_of_head hs' ht']
  rw [hss, List.append_cancel_left_eq] at h
  exact ⟨hss, h⟩

/-- `[-](0|[1-9][0-9]*)[.digits]`, by its parts. -/
structure Numeral where
  negative : Bool
  whole : List Char
  fraction : List Char
  whole_ne_nil : whole ≠ []
  whole_digits : ∀ c ∈ whole, c.isDigit = true
  whole_start : whole.head? = some '0' → whole = ['0']
  fraction_digits : ∀ c ∈ fraction, c.isDigit = true

namespace Numeral

def minus (negative : Bool) : List Char := if negative then ['-'] else []

def pointed : List Char → List Char
  | [] => []
  | fraction => '.' :: fraction

def text (n : Numeral) : List Char := minus n.negative ++ (n.whole ++ pointed n.fraction)

/-- All digits as one integer, over a power of ten for each digit after the point. -/
def absolute (n : Numeral) : ℚ :=
  Nat.ofDigitChars 10 (n.whole ++ n.fraction) 0 / 10 ^ n.fraction.length

def value (n : Numeral) : ℚ := signed n.negative n.absolute

theorem absolute_nonneg (n : Numeral) : 0 ≤ n.absolute :=
  div_nonneg (Nat.cast_nonneg _) (pow_nonneg (by norm_num) _)

/-! ## One way to take a numeral apart -/

theorem ne_of_isDigit {c d : Char} (hc : c.isDigit = true) (hd : d.isDigit = false) : c ≠ d := by
  rintro rfl
  rw [hc] at hd
  cases hd

theorem pointed_head (fraction : List Char) : ∀ c ∈ (pointed fraction).head?, c.isDigit = false := by
  intro c hc
  cases fraction with
  | nil => cases hc
  | cons d ds =>
    cases hc
    rfl

theorem pointed_of_ne_nil {fraction : List Char} (h : fraction ≠ []) :
    pointed fraction = '.' :: fraction := by
  cases fraction with
  | nil => exact absurd rfl h
  | cons c cs => rfl

theorem pointed_injective {s t : List Char} (h : pointed s = pointed t) : s = t := by
  cases s <;> cases t <;> simp_all [pointed]

theorem negative_eq_of_text {m n : Numeral} (h : m.text = n.text) : m.negative = n.negative := by
  obtain ⟨c, cs, hm⟩ := List.exists_cons_of_ne_nil m.whole_ne_nil
  obtain ⟨d, ds, hn⟩ := List.exists_cons_of_ne_nil n.whole_ne_nil
  have hc : c ≠ '-' := ne_of_isDigit (m.whole_digits c (by rw [hm]; exact List.mem_cons_self ..)) (by decide)
  have hd : d ≠ '-' := ne_of_isDigit (n.whole_digits d (by rw [hn]; exact List.mem_cons_self ..)) (by decide)
  rw [text, text, hm, hn] at h
  cases hs : m.negative <;> cases ht : n.negative
  · rfl
  · rw [hs, ht] at h
    exact absurd (List.cons.inj h).1 hc
  · rw [hs, ht] at h
    exact absurd (List.cons.inj h).1.symm hd
  · rfl

theorem text_injective {m n : Numeral} (h : m.text = n.text) : m = n := by
  have hs := negative_eq_of_text h
  rw [text, text, hs, List.append_cancel_left_eq] at h
  obtain ⟨hw, hp⟩ := append_inj_of_head m.whole_digits n.whole_digits (pointed_head m.fraction)
    (pointed_head n.fraction) h
  have hf := pointed_injective hp
  obtain ⟨⟩ := m
  obtain ⟨⟩ := n
  cases hs
  cases hw
  cases hf
  rfl

end Numeral

theorem head?_append_of_ne_nil {s t : List Char} (h : s ≠ []) : (s ++ t).head? = s.head? := by
  cases s with
  | nil => exact absurd rfl h
  | cons c s => rfl

theorem toDigits_digits (n : Nat) : ∀ c ∈ Nat.toDigits 10 n, c.isDigit = true := fun _ hc =>
  Nat.isDigit_of_mem_toDigits (by decide) (by decide) hc

theorem eq_zero_of_head_toDigits {n : Nat} (h : (Nat.toDigits 10 n).head? = some '0') : n = 0 := by
  induction n using Nat.strong_induction_on with
  | _ n ih =>
    by_cases hn : n < 10
    · rw [Nat.toDigits_of_lt_base hn, List.head?_cons, Option.some.injEq] at h
      have hall : ∀ n < 10, n.digitChar = '0' → n = 0 := by decide
      exact hall n hn h
    · rw [Nat.toDigits_of_base_le (by decide) (by omega), head?_append_of_ne_nil Nat.toDigits_ne_nil] at h
      have hz := ih (n / 10) (by omega) h
      omega

theorem toDigits_start {n : Nat} (h : (Nat.toDigits 10 n).head? = some '0') : Nat.toDigits 10 n = ['0'] := by
  rw [eq_zero_of_head_toDigits h]
  rfl

theorem zeros_digits (k : Nat) : ∀ c ∈ List.replicate k '0', c.isDigit = true := by
  intro c hc
  rw [List.eq_of_mem_replicate hc]
  rfl

def Numeral.ofInt (n : Int) : Numeral where
  negative := n < 0
  whole := Nat.toDigits 10 n.natAbs
  fraction := []
  whole_ne_nil := Nat.toDigits_ne_nil
  whole_digits := toDigits_digits _
  whole_start := toDigits_start
  fraction_digits _ h := by cases h

theorem Numeral.text_ofInt (n : Int) : (ofInt n).text = (toString n).toList := by
  rw [Int.toString_eq_repr, Int.repr_eq_if, text]
  simp only [ofInt, pointed, List.append_nil]
  by_cases hn : 0 ≤ n
  · have hneg : decide (n < 0) = false := decide_eq_false (by omega)
    have habs : n.natAbs = n.toNat := by omega
    rw [if_pos hn, Nat.toList_repr, hneg, habs]
    rfl
  · have hneg : decide (n < 0) = true := decide_eq_true (by omega)
    have habs : n.natAbs = (-n).toNat := by omega
    rw [if_neg hn, String.toList_append, Nat.toList_repr, hneg, habs]
    rfl

theorem Numeral.value_ofInt (n : Int) : (ofInt n).value = n := by
  simp only [value, absolute, ofInt, List.append_nil, Nat.ofDigitChars_ten_toDigits, List.length_nil, pow_zero,
    div_one, signed]
  by_cases hn : n < 0
  · have habs : (n.natAbs : ℚ) = -n := by
      rw [Nat.cast_natAbs, abs_of_neg hn, Int.cast_neg]
    simp [hn, habs]
  · have habs : (n.natAbs : ℚ) = n := by
      rw [Nat.cast_natAbs, abs_of_nonneg (by omega)]
    simp [hn, habs]

/-! ## Decimals as they are laid out -/

namespace Decimal

variable (d : Decimal)

theorem value_eq_div {d : Decimal} {zeros places : Nat} (h : d.exponent = zeros - places) :
    d.value = (10 ^ zeros * d.digits : ℕ) / 10 ^ places := by
  rw [value, h, zpow_sub₀ (by norm_num), zpow_natCast, zpow_natCast]
  push_cast
  ring

theorem ofDigitChars_zeros (k : Nat) (s : List Char) :
    Nat.ofDigitChars 10 (List.replicate k '0' ++ s) 0 = Nat.ofDigitChars 10 s 0 := by
  rw [Nat.ofDigitChars_append, Nat.ofDigitChars_replicate_zero, Nat.mul_zero]

structure IsLaidOut (negative : Bool) (n : Numeral) : Prop where
  sign : n.negative = negative
  text : n.text = Numeral.minus negative ++ d.plain
  absolute : n.absolute = d.value
  point : n.fraction = [] → 10 ^ 16 ≤ d.value

theorem isLaidOut_below (negative : Bool) (hp : d.pointAt ≤ 0) : ∃ n, d.IsLaidOut negative n := by
  let zeros := List.replicate (-d.pointAt).toNat '0'
  let n : Numeral :=
    { negative, whole := ['0'], fraction := zeros ++ Nat.toDigits 10 d.digits
      whole_ne_nil := List.cons_ne_nil _ _
      whole_digits := zeros_digits 1
      whole_start := fun _ => rfl
      fraction_digits := List.forall_mem_append.2 ⟨zeros_digits _, toDigits_digits _⟩ }
  have hne : n.fraction ≠ [] := fun h => Nat.toDigits_ne_nil (List.append_eq_nil_iff.1 h).2
  refine ⟨n, rfl, ?_, ?_, fun h => absurd h hne⟩
  · rw [Numeral.text, Numeral.pointed_of_ne_nil hne, plain, layDigits, if_pos hp]
    rfl
  · have hdigits : Nat.ofDigitChars 10 (n.whole ++ n.fraction) 0 = d.digits := by
      change Nat.ofDigitChars 10 (List.replicate 1 '0' ++ (zeros ++ Nat.toDigits 10 d.digits)) 0 = d.digits
      rw [ofDigitChars_zeros, ofDigitChars_zeros, Nat.ofDigitChars_ten_toDigits]
    have he : d.exponent = (0 : ℕ) - (n.fraction.length : ℕ) := by
      simp only [n, zeros, List.length_append, List.length_replicate]
      unfold pointAt at hp ⊢
      omega
    rw [Numeral.absolute, hdigits, value_eq_div he, pow_zero, one_mul]

theorem isLaidOut_within (negative : Bool) (hp : 0 < d.pointAt)
    (hl : d.pointAt.toNat < (Nat.toDigits 10 d.digits).length) : ∃ n, d.IsLaidOut negative n := by
  let digits := Nat.toDigits 10 d.digits
  have hpos : d.pointAt.toNat ≠ 0 := by omega
  have htake : digits.take d.pointAt.toNat ≠ [] := by
    intro h
    rcases List.take_eq_nil_iff.1 h with h | h
    · exact hpos h
    · exact Nat.toDigits_ne_nil h
  have hhead : (digits.take d.pointAt.toNat).head? = digits.head? := by
    rw [List.head?_take, if_neg hpos]
  let n : Numeral :=
    { negative, whole := digits.take d.pointAt.toNat, fraction := digits.drop d.pointAt.toNat
      whole_ne_nil := htake
      whole_digits := fun c hc => toDigits_digits _ c (List.mem_of_mem_take hc)
      whole_start := by
        intro h
        -- zero has one digit, and no place for a point
        rw [hhead] at h
        have hz := toDigits_start h
        rw [hz, List.length_singleton] at hl
        omega
      fraction_digits := fun c hc => toDigits_digits _ c (List.mem_of_mem_drop hc) }
  have hne : n.fraction ≠ [] := by
    intro h
    exact Nat.not_le_of_lt hl (List.drop_eq_nil_iff.1 h)
  refine ⟨n, rfl, ?_, ?_, fun h => absurd h hne⟩
  · rw [Numeral.text, Numeral.pointed_of_ne_nil hne, plain, layDigits, if_neg (by omega), if_neg (by omega)]
  · have hdigits : Nat.ofDigitChars 10 (n.whole ++ n.fraction) 0 = d.digits := by
      change Nat.ofDigitChars 10 (digits.take _ ++ digits.drop _) 0 = d.digits
      rw [List.take_append_drop, Nat.ofDigitChars_ten_toDigits]
    have he : d.exponent = (0 : ℕ) - (n.fraction.length : ℕ) := by
      simp only [n, digits, List.length_drop]
      unfold pointAt at hp hl ⊢
      omega
    rw [Numeral.absolute, hdigits, value_eq_div he, pow_zero, one_mul]

theorem pow_le_value {d : Decimal} (h : d.digits ≠ 0) : (10 : ℚ) ^ (d.pointAt - 1) ≤ d.value := by
  have hpow : ((10 ^ ((Nat.toDigits 10 d.digits).length - 1) : ℕ) : ℚ) ≤ d.digits := by
    exact_mod_cast pow_length_toDigits_le (Nat.pos_of_ne_zero h)
  have hlen : 0 < (Nat.toDigits 10 d.digits).length := Nat.length_toDigits_pos
  have he : d.pointAt - 1 = ((Nat.toDigits 10 d.digits).length - 1 : ℕ) + d.exponent := by
    unfold pointAt
    omega
  rw [Nat.cast_pow, Nat.cast_ofNat] at hpow
  rw [he, zpow_add₀ (by norm_num), zpow_natCast]
  exact mul_le_mul_of_nonneg_right hpow (zpow_pos (by norm_num) _).le

def wholePlaces (point : Int) : Nat := if point ≤ 16 then 1 else 0

theorem pointed_wholePlaces (point : Int) :
    Numeral.pointed (List.replicate (wholePlaces point) '0') = wholeTail point := by
  unfold wholePlaces wholeTail
  split <;> rfl

theorem lt_of_wholePlaces {point : Int} (h : List.replicate (wholePlaces point) '0' = []) :
    16 < point := by
  unfold wholePlaces at h
  split at h
  · cases h
  · omega

theorem pow_sixteen_le_value {d : Decimal} (hd : d.digits ≠ 0) (hp : 16 < d.pointAt) :
    10 ^ 16 ≤ d.value := by
  calc (10 : ℚ) ^ 16 = 10 ^ (16 : ℤ) := (zpow_natCast 10 16).symm
    _ ≤ 10 ^ (d.pointAt - 1) := zpow_le_zpow_right₀ (by norm_num) (by omega)
    _ ≤ d.value := pow_le_value hd

theorem isLaidOut_after (negative : Bool) (hd : d.digits = 0 → d.exponent = 0) (hp : 0 < d.pointAt)
    (hl : (Nat.toDigits 10 d.digits).length ≤ d.pointAt.toNat) : ∃ n, d.IsLaidOut negative n := by
  let digits := Nat.toDigits 10 d.digits
  let zeros := d.pointAt.toNat - digits.length
  let places := wholePlaces d.pointAt
  have hzero : d.digits = 0 → d.pointAt = 1 := by
    intro hz
    rw [pointAt, hz, hd hz]
    rfl
  let n : Numeral :=
    { negative, whole := digits ++ List.replicate zeros '0', fraction := List.replicate places '0'
      whole_ne_nil := fun h => Nat.toDigits_ne_nil (List.append_eq_nil_iff.1 h).1
      whole_digits := List.forall_mem_append.2 ⟨toDigits_digits _, zeros_digits _⟩
      whole_start := by
        intro h
        rw [head?_append_of_ne_nil Nat.toDigits_ne_nil] at h
        have hz := eq_zero_of_head_toDigits h
        simp only [digits, zeros, hzero hz, hz]
        rfl
      fraction_digits := zeros_digits _ }
  refine ⟨n, rfl, ?_, ?_, fun h => ?_⟩
  · rw [plain, layDigits, if_neg (by omega), if_pos hl, ← pointed_wholePlaces]
    rfl
  · have hdigits : Nat.ofDigitChars 10 (n.whole ++ n.fraction) 0 = 10 ^ (zeros + places) * d.digits := by
      change Nat.ofDigitChars 10 (digits ++ List.replicate zeros '0' ++ List.replicate places '0') 0 = _
      rw [List.append_assoc, List.replicate_append_replicate, Nat.ofDigitChars_append,
        Nat.ofDigitChars_replicate_zero, Nat.ofDigitChars_ten_toDigits]
    have he : d.exponent = (zeros + places : ℕ) - (n.fraction.length : ℕ) := by
      simp only [n, zeros, digits, List.length_replicate]
      unfold pointAt at hp hl ⊢
      omega
    rw [Numeral.absolute, hdigits, value_eq_div he]
  · have hbig := lt_of_wholePlaces h
    refine pow_sixteen_le_value (fun hz => ?_) hbig
    rw [hzero hz] at hbig
    exact absurd hbig (by decide)

theorem exists_isLaidOut (negative : Bool) (hd : d.digits = 0 → d.exponent = 0) :
    ∃ n, d.IsLaidOut negative n := by
  by_cases hp : d.pointAt ≤ 0
  · exact d.isLaidOut_below negative hp
  · by_cases hl : (Nat.toDigits 10 d.digits).length ≤ d.pointAt.toNat
    · exact d.isLaidOut_after negative hd (by omega) hl
    · exact d.isLaidOut_within negative (by omega) (by omega)

end Decimal

/-! ## Doubles -/

namespace Binary64

/-- The text of a number is a numeral, with its sign, that rounds to it. -/
theorem exists_numeral (x : Binary64) : ∃ n : Numeral, x.plain.toList = n.text ∧
    n.negative = x.negative ∧ (x.isFinite = true → IsNearest n.value x) ∧
    (n.fraction = [] → 10 ^ 16 ≤ n.absolute) := by
  obtain ⟨hcovers, hzero⟩ := covers_shortest x
  obtain ⟨n, hn⟩ := x.shortest.exists_isLaidOut x.negative hzero
  refine ⟨n, ?_, hn.sign, fun hf => ?_, fun h => ?_⟩
  · rw [plain, String.toList_ofList, hn.text]
    rfl
  · rw [Numeral.value, hn.sign, hn.absolute]
    have hnonneg := n.absolute_nonneg
    rw [hn.absolute] at hnonneg
    exact hcovers.isNearest hf hnonneg
  · rw [hn.absolute]
    exact hn.point h

theorem plain_inj {x y : Binary64} (hx : x.isFinite = true) (hy : y.isFinite = true)
    (h : x.plain = y.plain) : x = y := by
  obtain ⟨m, hm, hmx, hmr, -⟩ := x.exists_numeral
  obtain ⟨n, hn, hny, hnr, -⟩ := y.exists_numeral
  have hmn : m = n := Numeral.text_injective (by rw [← hm, ← hn, h])
  have hs : x.negative = y.negative := by rw [← hmx, ← hny, hmn]
  have hr := hmr hx
  rw [hmn] at hr
  exact hr.unique (hnr hy) hs

end Binary64

end ClauseQuery
