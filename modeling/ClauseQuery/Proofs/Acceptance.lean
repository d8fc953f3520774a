import ClauseQuery.Proofs.Spellings
import ClauseQuery.Proofs.UniqueConditions

/-! # Which conditions are made -/

namespace ClauseQuery

/-! ## Values for a comparison -/

namespace Value

/-- Has a literal of its own: a flag, a text, a finite number or an integer that can be written. -/
def isOperand : Value → Bool
  | flag _ | word _ => true
  | integer n => isWritable n
  | real x => x.isFinite
  | _ => false

inductive Unwritable : Value → Fault → Prop
  | notFinite {x : Binary64} (hx : x.isFinite = false) : Unwritable (real x) (.notFinite x)
  | tooManyDigits {n : Int} (hn : isWritable n = false) : Unwritable (integer n) .tooManyDigits

end Value

def Value.IsArray (v : Value) (xs : List Value) : Prop := v = .list xs ∨ v = .tuple xs

namespace Comparison

def withScalar : List Comparison := [eq, neq, gt, gte, lt, lte]

def withArray : List Comparison := [containsAll, notContainsAll, containsAny, notContainsAny, containsExactly]

/-- A blank text is no operand on its own, but may be an element. -/
inductive Accepts (c : Comparison) (v : Value) : Prop
  | scalar (hc : c ∈ withScalar) (hv : v.isOperand = true) (hb : ∀ w, v = .word w → isBlankText w.token = false)
  | array {xs : List Value} (hc : c ∈ withArray) (hv : v.IsArray xs) (hne : xs ≠ [])
    (hxs : ∀ x ∈ xs, x.isOperand = true)

/-- The elements before the one that is named are as good as the fault lets them be: `elementNotScalar`
looks past numbers without a literal, `unwritableElement` past nothing. -/
inductive Refuses (c : Comparison) (v : Value) : Fault → Prop
  | notScalar (hc : c ∈ withScalar) (hv : v.isScalar = false) : Refuses c v (.notScalar c)
  | blankOperand {w : Word} (hc : c ∈ withScalar) (hv : v = .word w) (hw : isBlankText w.token = true) :
    Refuses c v (.blankOperand c)
  | unwritable {f : Fault} (hc : c ∈ withScalar) (hv : v.Unwritable f) : Refuses c v f
  | notAnArray (hc : c ∈ withArray) (hv : ∀ xs, v.IsArray xs → xs = []) : Refuses c v (.notAnArray c)
  | elementNotScalar {before after : List Value} {x : Value} (hc : c ∈ withArray)
    (hv : v.IsArray (before ++ x :: after)) (hb : ∀ y ∈ before, y.isScalar = true)
    (hx : x.isScalar = false) : Refuses c v (.elementNotScalar before.length c)
  | unwritableElement {before after : List Value} {x : Value} {f : Fault} (hc : c ∈ withArray)
    (hv : v.IsArray (before ++ x :: after)) (hs : ∀ y ∈ before ++ x :: after, y.isScalar = true)
    (hb : ∀ y ∈ before, y.isOperand = true) (hx : x.Unwritable f) : Refuses c v f

theorem mem_withScalar_or_withArray (c : Comparison) : c ∈ withScalar ∨ c ∈ withArray := by
  cases c <;> decide

theorem takesArray_of_mem_withScalar {c : Comparison} (hc : c ∈ withScalar) : c.takesArray = false := by
  have hall : ∀ c ∈ withScalar, c.takesArray = false := by decide
  exact hall c hc

theorem takesArray_of_mem_withArray {c : Comparison} (hc : c ∈ withArray) : c.takesArray = true := by
  have hall : ∀ c ∈ withArray, c.takesArray = true := by decide
  exact hall c hc

end Comparison

/-! ## Literals -/

namespace Value

theorem isScalar_of_isOperand {v : Value} (h : v.isOperand = true) : v.isScalar = true := by
  cases v with
  | flag | integer | word | real => rfl
  | _ => cases h

theorem literal_of_isOperand {v : Value} (h : v.isOperand = true) : ∃ s, v.literal = .ok s := by
  cases v with
  | flag | word => exact ⟨_, rfl⟩
  | integer n => exact ⟨toString n, integerText_eq_ok.2 ⟨h, rfl⟩⟩
  | real x => exact ⟨x.plain, literal_real_eq_ok.2 ⟨h, rfl⟩⟩
  | _ => cases h

theorem Unwritable.literal {v : Value} {f : Fault} (h : v.Unwritable f) : v.literal = .error f := by
  cases h with
  | notFinite hx => exact literal_real_eq_error.2 ⟨hx, rfl⟩
  | tooManyDigits hn => exact integerText_eq_error.2 ⟨hn, rfl⟩

theorem Unwritable.isScalar {v : Value} {f : Fault} (h : v.Unwritable f) : v.isScalar = true := by
  cases h <;> rfl

theorem isOperand_or_unwritable {v : Value} (h : v.isScalar = true) :
    v.isOperand = true ∨ ∃ f, v.Unwritable f := by
  cases v with
  | flag | word => exact .inl rfl
  | integer n =>
    cases hn : isWritable n with
    | true => exact .inl hn
    | false => exact .inr ⟨_, .tooManyDigits hn⟩
  | real x =>
    cases hx : x.isFinite with
    | true => exact .inl hx
    | false => exact .inr ⟨_, .notFinite hx⟩
  | _ => cases h

end Value

theorem all_or_first {α} (p : α → Bool) (xs : List α) : (∀ x ∈ xs, p x = true) ∨
    ∃ before x after, xs = before ++ x :: after ∧ (∀ y ∈ before, p y = true) ∧ p x = false := by
  cases h : xs.find? (!p ·) with
  | none => exact .inl (by simpa using h)
  | some x =>
    obtain ⟨hx, before, after, hxs, hb⟩ := List.find?_eq_some_iff_append.1 h
    exact .inr ⟨before, x, after, hxs, by simpa using hb, by simpa using hx⟩

/-! ## Operands -/

namespace Condition

theorem arrayElements_of_isArray {v : Value} {xs : List Value} (h : v.IsArray xs) (hne : xs ≠ []) :
    arrayElements? v = some xs := by
  obtain ⟨x, xs, rfl⟩ := List.exists_cons_of_ne_nil hne
  rcases h with rfl | rfl
  · rfl
  · rfl

theorem arrayElements_eq_none {v : Value} (h : ∀ xs, v.IsArray xs → xs = []) : arrayElements? v = none := by
  cases v with
  | list xs =>
    rw [h xs (.inl rfl)]
    rfl
  | tuple xs =>
    rw [h xs (.inr rfl)]
    rfl
  | _ => rfl

def operandTexts (c : Comparison) (v : Value) : Except Fault (List String) :=
  if c.takesArray then arrayOperands c v else (fun s => [s]) <$> scalarOperand c v

theorem operandTexts_of_withScalar {c : Comparison} (hc : c ∈ Comparison.withScalar) (v : Value) :
    operandTexts c v = (fun s => [s]) <$> scalarOperand c v := by
  rw [operandTexts, Comparison.takesArray_of_mem_withScalar hc]
  rfl

theorem operandTexts_of_withArray {c : Comparison} (hc : c ∈ Comparison.withArray) (v : Value) :
    operandTexts c v = arrayOperands c v := by
  rw [operandTexts, Comparison.takesArray_of_mem_withArray hc]
  rfl

theorem scalarOperand_eq {c : Comparison} {v : Value} (hs : v.isScalar = true)
    (hb : ∀ w, v = .word w → isBlankText w.token = false) : scalarOperand c v = v.literal := by
  have hblank : isBlankOperand v = false := by
    cases v with
    | word w => exact hb w rfl
    | _ => rfl
  rw [scalarOperand, hs, hblank]
  rfl

theorem findIdx?_of_scalars {xs : List Value} (hs : ∀ x ∈ xs, x.isScalar = true) :
    xs.findIdx? (fun x => !x.isScalar) = none := by
  refine List.findIdx?_eq_none_iff.2 fun x hx => ?_
  rw [hs x hx]
  rfl

theorem arrayOperands_eq {c : Comparison} {v : Value} {xs : List Value} (h : v.IsArray xs) (hne : xs ≠ [])
    (hs : ∀ x ∈ xs, x.isScalar = true) : arrayOperands c v = xs.mapM Value.literal := by
  rw [arrayOperands, arrayElements_of_isArray h hne]
  dsimp only
  rw [findIdx?_of_scalars hs]

theorem operandTexts_of_accepts {c : Comparison} {v : Value} (h : c.Accepts v) :
    ∃ ss, operandTexts c v = .ok ss := by
  cases h with
  | scalar hc hv hb =>
    obtain ⟨s, hs⟩ := Value.literal_of_isOperand hv
    rw [operandTexts_of_withScalar hc, scalarOperand_eq (Value.isScalar_of_isOperand hv) hb, hs]
    exact ⟨[s], rfl⟩
  | array hc hv hne hxs =>
    rw [operandTexts_of_withArray hc,
      arrayOperands_eq hv hne fun x hx => Value.isScalar_of_isOperand (hxs x hx)]
    exact exists_mapM fun x hx => Value.literal_of_isOperand (hxs x hx)

theorem operandTexts_of_refuses {c : Comparison} {v : Value} {f : Fault} (h : c.Refuses v f) :
    operandTexts c v = .error f := by
  cases h with
  | notScalar hc hv =>
    rw [operandTexts_of_withScalar hc, scalarOperand, hv]
    rfl
  | blankOperand hc hv hw =>
    rw [operandTexts_of_withScalar hc, scalarOperand, hv, isBlankOperand, hw]
    rfl
  | unwritable hc hv =>
    have hword : ∀ w, v = .word w → isBlankText w.token = false := by
      rintro w rfl
      cases hv
    rw [operandTexts_of_withScalar hc, scalarOperand_eq hv.isScalar hword, hv.literal]
    rfl
  | notAnArray hc hv =>
    rw [operandTexts_of_withArray hc, arrayOperands, arrayElements_eq_none hv]
    rfl
  | @elementNotScalar before after x hc hv hb hx =>
    have hfirst : (before ++ x :: after).findIdx? (fun y => !y.isScalar) = some before.length := by
      rw [List.findIdx?_append, findIdx?_of_scalars hb, List.findIdx?_cons, hx]
      simp
    rw [operandTexts_of_withArray hc, arrayOperands, arrayElements_of_isArray hv (by simp)]
    dsimp only
    rw [hfirst]
    rfl
  | unwritableElement hc hv hs hb hx =>
    rw [operandTexts_of_withArray hc, arrayOperands_eq hv (by simp) hs]
    exact mapM_error_of_first hx.literal _ fun y hy => Value.literal_of_isOperand (hb y hy)

end Condition

namespace Comparison

theorem accepts_or_refuses_scalar {c : Comparison} (hc : c ∈ withScalar) (v : Value) :
    c.Accepts v ∨ ∃ f, c.Refuses v f := by
  cases hs : v.isScalar with
  | false => exact .inr ⟨_, .notScalar hc hs⟩
  | true =>
    rcases Value.isOperand_or_unwritable hs with hv | ⟨f, hv⟩
    · by_cases hb : ∀ w, v = .word w → isBlankText w.token = false
      · exact .inl (.scalar hc hv hb)
      · push Not at hb
        obtain ⟨w, hv, hw⟩ := hb
        exact .inr ⟨_, .blankOperand hc hv (by simpa using hw)⟩
    · exact .inr ⟨f, .unwritable hc hv⟩

theorem accepts_or_refuses_array {c : Comparison} (hc : c ∈ withArray) (v : Value) :
    c.Accepts v ∨ ∃ f, c.Refuses v f := by
  by_cases harray : ∀ xs, v.IsArray xs → xs = []
  · exact .inr ⟨_, .notAnArray hc harray⟩
  · push Not at harray
    obtain ⟨xs, hv, hne⟩ := harray
    rcases all_or_first Value.isScalar xs with hs | ⟨before, x, after, rfl, hb, hx⟩
    · rcases all_or_first Value.isOperand xs with hxs | ⟨before, x, after, rfl, hb, hx⟩
      · exact .inl (.array hc hv hne hxs)
      · rcases Value.isOperand_or_unwritable (hs x (by simp)) with h | ⟨f, hf⟩
        · rw [hx] at h
          cases h
        · exact .inr ⟨f, .unwritableElement hc hv hs hb hf⟩
    · exact .inr ⟨_, .elementNotScalar hc hv hb hx⟩

theorem accepts_or_refuses (c : Comparison) (v : Value) : c.Accepts v ∨ ∃ f, c.Refuses v f := by
  rcases c.mem_withScalar_or_withArray with hc | hc
  · exact accepts_or_refuses_scalar hc v
  · exact accepts_or_refuses_array hc v

end Comparison

/-! ## Conditions -/

namespace Condition

inductive Blames (field value comparison : Value) : String → Fault → Prop
  | field (hf : field.hasText = false) : Blames field value comparison "field" .blankField
  | operator {f : Fault} (hf : field.hasText = true) (hc : resolve Comparison comparison = .error f) :
    Blames field value comparison "operator" f
  | value {c : Comparison} {f : Fault} (hf : field.hasText = true)
    (hc : resolve Comparison comparison = .ok c) (hv : c.Refuses value f) :
    Blames field value comparison "value" f

theorem checkedField_of_hasText {v : Value} (h : v.hasText = true) : checkedField v = .ok v.trimmed := by
  cases v with
  | word w => exact checkedField_eq_ok.2 ⟨w, rfl, by simpa [Value.hasText] using h, rfl⟩
  | _ => cases h

theorem checkedField_of_not_hasText {v : Value} (h : v.hasText = false) :
    checkedField v = .error .blankField := by
  cases v with
  | word w =>
    have hb : isBlankText w.token = true := by simpa [Value.hasText] using h
    rw [checkedField, hb]
    rfl
  | _ => rfl

section
variable {field value comparison : Value}

theorem make_eq {c : Comparison} (hf : field.hasText = true) (hc : resolve Comparison comparison = .ok c) :
    make field value comparison =
      (operandTexts c value).map fun operands => ⟨field.trimmed, c, operands⟩ := by
  rw [make, checkedField_of_hasText hf, hc, operandTexts]
  cases h : c.takesArray with
  | true =>
    simp only [bind, Except.bind, h, if_true]
    cases arrayOperands c value <;> rfl
  | false =>
    simp only [bind, Except.bind, h, Bool.false_eq_true, if_false]
    cases scalarOperand c value <;> rfl

theorem exists_make {c : Comparison} (hf : field.hasText = true) (hc : resolve Comparison comparison = .ok c)
    (hv : c.Accepts value) : ∃ made, make field value comparison = .ok made := by
  obtain ⟨ss, hss⟩ := operandTexts_of_accepts hv
  rw [make_eq hf hc, hss]
  exact ⟨_, rfl⟩

theorem make_of_blames {param : String} {f : Fault} (h : Blames field value comparison param f) :
    make field value comparison = .error f := by
  cases h with
  | field hf =>
    rw [make, checkedField_of_not_hasText hf]
    rfl
  | operator hf hc =>
    rw [make, checkedField_of_hasText hf, hc]
    rfl
  | value hf hc hv =>
    rw [make_eq hf hc, operandTexts_of_refuses hv]
    rfl

theorem accepts_or_blames (field value comparison : Value) :
    (field.hasText = true ∧ ∃ c, resolve Comparison comparison = .ok c ∧ c.Accepts value) ∨
      ∃ f param, Blames field value comparison param f := by
  cases hf : field.hasText with
  | false => exact .inr ⟨_, _, .field hf⟩
  | true =>
    cases hc : resolve Comparison comparison with
    | error f => exact .inr ⟨_, _, .operator hf hc⟩
    | ok c =>
      rcases c.accepts_or_refuses value with hv | ⟨f, hv⟩
      · exact .inl ⟨rfl, c, rfl, hv⟩
      · exact .inr ⟨_, _, .value hf hc hv⟩

theorem Blames.param_eq {param : String} {f : Fault} (h : Blames field value comparison param f) :
    f.kind = .invalid ∧ f.param = some param ∨ param = "value" ∧ f = .tooManyDigits := by
  cases h with
  | field hf => exact .inl ⟨rfl, rfl⟩
  | operator hf hc => exact .inl (Comparison.isDistinct.blames hc)
  | value hf hc hv =>
    cases hv with
    | notScalar | blankOperand | notAnArray | elementNotScalar => exact .inl ⟨rfl, rfl⟩
    | unwritable _ hu | unwritableElement _ _ _ _ hu =>
      cases hu with
      | notFinite => exact .inl ⟨rfl, rfl⟩
      | tooManyDigits => exact .inr ⟨rfl, rfl⟩

end

end Condition

/-- **A condition is made exactly from a field with text, a comparison and values that go with it.** Of
what is wrong, the first in the order of the arguments is blamed, though an integer with too many
digits without a name. -/
theorem conditions_made_or_blamed (field value comparison : Value) :
    ((∃ made, Condition.make field value comparison = .ok made) ↔ field.hasText = true ∧
      ∃ w c, comparison = .word w ∧ resolve Comparison w = .ok c ∧ c.Accepts value) ∧
    (∀ f, Condition.make field value comparison = .error f ↔
      ∃ param, Condition.Blames field value comparison param f) ∧
    ∀ param f, Condition.Blames field value comparison param f →
      f.kind = .invalid ∧ f.param = some param ∨
        param = "value" ∧ f = .tooManyDigits ∧ f.kind = .value ∧ f.param = none := by
  have hmade : field.hasText = true ∧ (∃ c, resolve Comparison comparison = .ok c ∧ c.Accepts value) →
      ∃ made, Condition.make field value comparison = .ok made := by
    rintro ⟨hf, c, hc, hv⟩
    exact Condition.exists_make hf hc hv
  have hblamed : ∀ f, (∃ param, Condition.Blames field value comparison param f) →
      Condition.make field value comparison = .error f := by
    rintro f ⟨param, h⟩
    exact Condition.make_of_blames h
  obtain ⟨hok, herror⟩ := decided hmade hblamed (Condition.accepts_or_blames field value comparison)
  have hword : ∀ c, resolve Comparison comparison = .ok c → ∃ w, comparison = .word w := by
    intro c hc
    cases comparison with
    | word w => exact ⟨w, rfl⟩
    | _ => cases hc
  refine ⟨hok.trans (and_congr_right fun _ => ⟨?_, ?_⟩), herror, fun param f h => ?_⟩
  · rintro ⟨c, hc, hv⟩
    obtain ⟨w, rfl⟩ := hword c hc
    exact ⟨w, c, rfl, hc, hv⟩
  · rintro ⟨w, c, rfl, hc, hv⟩
    exact ⟨c, hc, hv⟩
  · rcases h.param_eq with h | ⟨rfl, rfl⟩
    · exact .inl h
    · exact .inr ⟨rfl, rfl, rfl, rfl⟩

/-- The element that is no scalar is named, though a number before it is not finite. Blank texts may be
elements. -/
theorem conditions_made_or_blamed_element :
    let refused := Condition.make "platforms" (.list [.real ⟨true, 0x7FF, 0⟩, 6, .null]) "()"
    let f : Fault := .elementNotScalar 2 .containsAny
    refused = .error f ∧ f.kind = .invalid ∧ f.param = some "value" ∧
    ∃ made, Condition.make " name " (.tuple [" ", .flag true]) Comparison.containsAll = .ok made := by
  intro refused f
  obtain ⟨-, herror, hparam⟩ :=
    conditions_made_or_blamed "platforms" (.list [.real ⟨true, 0x7FF, 0⟩, 6, .null]) "()"
  obtain ⟨hok, -, -⟩ := conditions_made_or_blamed " name " (.tuple [" ", .flag true]) Comparison.containsAll
  have helement : Comparison.containsAny.Refuses (.list [.real ⟨true, 0x7FF, 0⟩, 6, .null]) f :=
    @Comparison.Refuses.elementNotScalar _ _ [_, _] [] _ (by decide) (.inl rfl) (by decide) rfl
  have hblames : Condition.Blames "platforms" (.list [.real ⟨true, 0x7FF, 0⟩, 6, .null]) "()" "value" f :=
    .value (by decide) rfl helement
  have haccepts : Comparison.containsAll.Accepts (.tuple [" ", .flag true]) :=
    .array (by decide) (.inr rfl) (List.cons_ne_nil _ _) (by decide)
  obtain ⟨hkind, hp⟩ : f.kind = .invalid ∧ f.param = some "value" := by
    rcases hparam "value" f hblames with h | ⟨-, -, h, -⟩
    · exact h
    · cases (h : FaultKind.invalid = .value)
  exact ⟨(herror f).2 ⟨_, hblames⟩, hkind, hp, hok.2 ⟨by decide, _, _, rfl, rfl, haccepts⟩⟩

/-- A field with text, a scalar comparison and an integer: no condition, and no argument that is named. -/
theorem long_integer_not_made :
    let n : Int := Int.pow 10 mostDigits
    Value.hasText "rating" = true ∧ resolve Comparison (Comparison.eq : Value) = .ok .eq ∧
    Comparison.eq ∈ Comparison.withScalar ∧ (Value.integer n).isScalar = true ∧
    ∃ f, Condition.make "rating" (.integer n) Comparison.eq = .error f ∧ f.kind = .value ∧ f.param = none := by
  intro n
  have hn : isWritable n = false := by
    rw [Bool.eq_false_iff, Ne, isWritable_ten_pow]
    exact Nat.lt_irrefl _
  have hblames : Condition.Blames "rating" (.integer n) Comparison.eq "value" .tooManyDigits :=
    .value rfl rfl (.unwritable (by decide) (.tooManyDigits hn))
  exact ⟨rfl, rfl, by decide, rfl, _, Condition.make_of_blames hblames, rfl, rfl⟩

end ClauseQuery
