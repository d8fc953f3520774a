import ClauseQuery.Query.Session
import Mathlib.Data.List.Forall2

/-! # What passes a check -/

namespace ClauseQuery

/-! ## Results that are not faults -/

theorem map_eq_ok {α β} {r : Except Fault α} {f : α → β} {b : β} :
    r.map f = .ok b ↔ ∃ a, r = .ok a ∧ f a = b := by
  cases r <;> simp [Except.map]

theorem bind_eq_ok {α β} {r : Except Fault α} {f : α → Except Fault β} {b : β} :
    r >>= f = .ok b ↔ ∃ a, r = .ok a ∧ f a = .ok b := by
  cases r <;> simp [bind, Except.bind]

theorem bind_eq_error {α β} {r : Except Fault α} {f : α → Except Fault β} {e : Fault} :
    r >>= f = .error e ↔ r = .error e ∨ ∃ a, r = .ok a ∧ f a = .error e := by
  cases r <;> simp [bind, Except.bind]

theorem pure_eq_ok {α} {a b : α} : (pure a : Except Fault α) = .ok b ↔ a = b :=
  ⟨fun h => by cases h; rfl, fun h => by rw [h]; rfl⟩

theorem pure_ne_error {α} {a : α} {e : Fault} : (pure a : Except Fault α) ≠ .error e := by
  rintro ⟨⟩

theorem throw_eq_error {α} {f e : Fault} : (throw f : Except Fault α) = .error e ↔ e = f :=
  ⟨fun h => by cases h; rfl, fun h => by rw [h]; rfl⟩

theorem throw_ne_ok {α} {f : Fault} {a : α} : (throw f : Except Fault α) ≠ .ok a := by
  rintro ⟨⟩

theorem guarded_eq_ok {α} {p : Prop} [Decidable p] {f : Fault} {r : Except Fault α} {a : α} :
    (if p then throw f >>= fun _ : Unit => r else r) = .ok a ↔ ¬p ∧ r = .ok a := by
  simp [ite_eq_iff, bind_eq_ok, throw_ne_ok]

/-- What is accepted and what is refused, once every case is one or the other. -/
theorem decided {α} {r : Except Fault α} {P : Prop} {R : Fault → Prop} (hP : P → ∃ a, r = .ok a)
    (hR : ∀ f, R f → r = .error f) (h : P ∨ ∃ f, R f) :
    ((∃ a, r = .ok a) ↔ P) ∧ ∀ f, r = .error f ↔ R f := by
  rcases h with h | ⟨f, h⟩
  · obtain ⟨a, ha⟩ := hP h
    refine ⟨⟨fun _ => h, fun _ => ⟨a, ha⟩⟩, fun f => ⟨fun hf => ?_, hR f⟩⟩
    rw [ha] at hf
    cases hf
  · have hf := hR f h
    refine ⟨⟨?_, hP⟩, fun f' => ⟨fun hf' => ?_, hR f'⟩⟩
    · rintro ⟨a, ha⟩
      rw [hf] at ha
      cases ha
    · rw [hf] at hf'
      cases hf'
      exact h

theorem mapM_eq_ok {α β} {f : α → Except Fault β} : ∀ {xs : List α} {ys : List β},
    xs.mapM f = .ok ys ↔ List.Forall₂ (fun x y => f x = .ok y) xs ys
  | [], ys => by
    rw [List.mapM_nil, List.forall₂_nil_left_iff]
    exact ⟨fun h => by cases h; rfl, fun h => by rw [h]; rfl⟩
  | x :: xs, ys => by
    rw [List.mapM_cons, bind_eq_ok, List.forall₂_cons_left_iff]
    constructor
    · rintro ⟨y, hy, h⟩
      obtain ⟨zs, hzs, h⟩ := bind_eq_ok.1 h
      cases h
      exact ⟨y, zs, hy, mapM_eq_ok.1 hzs, rfl⟩
    · rintro ⟨y, zs, hy, hzs, rfl⟩
      exact ⟨y, hy, bind_eq_ok.2 ⟨zs, mapM_eq_ok.2 hzs, rfl⟩⟩

theorem mapM_error_of_first {α β} {f : α → Except Fault β} {x : α} {e : Fault} (hx : f x = .error e)
    (after : List α) {before : List α} (hb : ∀ y ∈ before, ∃ b, f y = .ok b) :
    (before ++ x :: after).mapM f = .error e := by
  induction before with
  | nil =>
    rw [List.nil_append, List.mapM_cons, hx]
    rfl
  | cons y before ih =>
    obtain ⟨⟨b, hy⟩, hb⟩ := List.forall_mem_cons.1 hb
    rw [List.cons_append, List.mapM_cons, hy, ih hb]
    rfl

theorem mapM_eq_error {α β} {f : α → Except Fault β} {xs : List α} {e : Fault} :
    xs.mapM f = .error e ↔
      ∃ before x after, xs = before ++ x :: after ∧ (∀ y ∈ before, ∃ b, f y = .ok b) ∧ f x = .error e := by
  constructor
  · intro h
    induction xs with
    | nil => cases h
    | cons x xs ih =>
      rw [List.mapM_cons] at h
      cases hx : f x with
      | error e' =>
        rw [hx] at h
        cases h
        exact ⟨[], x, xs, rfl, List.forall_mem_nil _, hx⟩
      | ok b =>
        have hxs : xs.mapM f = .error e := by
          rw [hx] at h
          cases hm : xs.mapM f with
          | error e' =>
            rw [hm] at h
            exact h
          | ok bs =>
            rw [hm] at h
            cases h
        obtain ⟨before, x', after, rfl, hb, hx'⟩ := ih hxs
        exact ⟨x :: before, x', after, rfl, List.forall_mem_cons.2 ⟨⟨b, hx⟩, hb⟩, hx'⟩
  · rintro ⟨before, x, after, rfl, hb, hx⟩
    exact mapM_error_of_first hx after hb

theorem exists_mapM {α β} {f : α → Except Fault β} {xs : List α} (h : ∀ x ∈ xs, ∃ y, f x = .ok y) :
    ∃ ys, xs.mapM f = .ok ys := by
  cases hm : xs.mapM f with
  | ok ys => exact ⟨ys, rfl⟩
  | error e =>
    obtain ⟨before, x, after, rfl, -, hx⟩ := mapM_eq_error.1 hm
    obtain ⟨y, hy⟩ := h x (List.mem_append_right _ (List.mem_cons_self ..))
    rw [hx] at hy
    cases hy

theorem exists_of_mem_mapM {α β} {f : α → Except Fault β} {xs : List α} {ys : List β}
    (h : xs.mapM f = .ok ys) {y : β} (hy : y ∈ ys) : ∃ x ∈ xs, f x = .ok y := by
  replace h := mapM_eq_ok.1 h
  induction h with
  | nil => cases hy
  | cons hx _ ih =>
    rcases List.mem_cons.1 hy with rfl | hy
    · exact ⟨_, List.mem_cons_self .., hx⟩
    · obtain ⟨x, hm, hf⟩ := ih hy
      exact ⟨x, List.mem_cons_of_mem _ hm, hf⟩

/-! ## Texts -/

/-- Not blank, and with nothing left to trim. -/
structure IsKept (s : String) : Prop where
  not_blank : isBlankText s = false
  trim_eq : trim s = s

theorem isBlankText_trim (s : String) : isBlankText (trim s) = isBlankText s := by
  rw [isBlankText, trim_trim, isBlankText]

theorem isKept_trim {s : String} (h : isBlankText s = false) : IsKept (trim s) :=
  ⟨by rw [isBlankText_trim, h], trim_trim s⟩

theorem IsKept.ne_empty {s : String} (h : IsKept s) : s ≠ "" := by
  rintro rfl
  exact absurd h.not_blank (by decide)

namespace Check

theorem nonBlank_eq_ok {v : Value} {param s : String} : nonBlank v param = .ok s ↔
    ∃ w, v = .word w ∧ isBlankText w.token = false ∧ trim w.token = s := by
  cases v with
  | word w =>
    simp [nonBlank, ite_eq_iff, throw_ne_ok, pure_eq_ok]
  | _ => simp [nonBlank, throw_ne_ok]

theorem isKept_of_nonBlank {v : Value} {param s : String} (h : nonBlank v param = .ok s) :
    IsKept s := by
  obtain ⟨w, -, hb, rfl⟩ := nonBlank_eq_ok.1 h
  exact isKept_trim hb

theorem nonBlank_of_isKept {s : String} (h : IsKept s) (param : String) :
    nonBlank s param = .ok s :=
  nonBlank_eq_ok.2 ⟨.plain s, rfl, h.not_blank, h.trim_eq⟩

theorem dottedPath_eq_ok {v : Value} {param s : String} : dottedPath v param = .ok s ↔
    nonBlank v param = .ok s ∧ (segments s).any isBlankText = false := by
  simp only [dottedPath, bind_eq_ok, guarded_eq_ok, pure_eq_ok, Bool.not_eq_true]
  constructor
  · rintro ⟨path, hp, hs, rfl⟩
    exact ⟨hp, hs⟩
  · rintro ⟨hp, hs⟩
    exact ⟨s, hp, hs, rfl⟩

theorem dottedPath_again {v : Value} {param s : String} (h : dottedPath v param = .ok s)
    (param' : String) : dottedPath s param' = .ok s := by
  obtain ⟨hs, hseg⟩ := dottedPath_eq_ok.1 h
  exact dottedPath_eq_ok.2 ⟨nonBlank_of_isKept (isKept_of_nonBlank hs) param', hseg⟩

/-! ## Integers -/

theorem integer_eq_ok {v : Value} {param : String} {n : Int} :
    integer v param = .ok n ↔ v = .integer n := by
  cases v <;> simp [integer, pure_eq_ok, throw_ne_ok]

theorem positive_eq_ok {v : Value} {param : String} {n : Int} :
    positive v param = .ok n ↔ v = .integer n ∧ 0 < n := by
  simp only [positive, bind_eq_ok, integer_eq_ok, guarded_eq_ok, pure_eq_ok, Int.not_le]
  constructor
  · rintro ⟨m, rfl, hm, rfl⟩
    exact ⟨rfl, hm⟩
  · rintro ⟨rfl, hn⟩
    exact ⟨n, rfl, hn, rfl⟩

theorem nonNegative_eq_ok {v : Value} {param : String} {n : Int} :
    nonNegative v param = .ok n ↔ v = .integer n ∧ 0 ≤ n := by
  simp only [nonNegative, bind_eq_ok, integer_eq_ok, guarded_eq_ok, pure_eq_ok, Int.not_lt]
  constructor
  · rintro ⟨m, rfl, hm, rfl⟩
    exact ⟨rfl, hm⟩
  · rintro ⟨rfl, hn⟩
    exact ⟨n, rfl, hn, rfl⟩

end Check

/-! ## Integers in digits -/

theorem length_toDigits_le_iff {n k : Nat} (hk : 0 < k) : (Nat.toDigits 10 n).length ≤ k ↔ n < Nat.pow 10 k :=
  Nat.length_toDigits_le_iff (by decide) hk

theorem isWritable_iff {n : Int} : isWritable n = true ↔ n.natAbs < Nat.pow 10 mostDigits := by
  rw [isWritable, decide_eq_true_eq, length_toDigits_le_iff (by decide)]

theorem ten_pow_lt_iff {j k : Nat} : Nat.pow 10 j < Nat.pow 10 k ↔ j < k :=
  Nat.pow_lt_pow_iff_right (by decide)

theorem isWritable_ten_pow {k : Nat} : isWritable (Int.pow 10 k) = true ↔ k < mostDigits := by
  have hk : (Int.pow 10 k).natAbs = Nat.pow 10 k := Int.natAbs_pow 10 k
  rw [isWritable_iff, hk, ten_pow_lt_iff]

theorem isWritable_of_le {m n : Int} (h : m.natAbs ≤ n.natAbs) (hn : isWritable n = true) :
    isWritable m = true :=
  isWritable_iff.2 (Nat.lt_of_le_of_lt h (isWritable_iff.1 hn))

theorem integerText_eq_ok {n : Int} {s : String} :
    integerText n = .ok s ↔ isWritable n = true ∧ toString n = s := by
  simp [integerText, ite_eq_iff, pure_eq_ok, throw_ne_ok]

theorem integerText_eq_error {n : Int} {f : Fault} :
    integerText n = .error f ↔ isWritable n = false ∧ f = .tooManyDigits := by
  simp [integerText, ite_eq_iff, pure_ne_error, throw_eq_error]

namespace Value

def hasText : Value → Bool
  | word w => !isBlankText w.token
  | _ => false

def trimmed : Value → String
  | word w => trim w.token
  | _ => ""

end Value

namespace Check

theorem nonBlank_of_hasText {v : Value} (h : v.hasText = true) (param : String) :
    nonBlank v param = .ok v.trimmed := by
  cases v with
  | word w => exact nonBlank_eq_ok.2 ⟨w, rfl, by simpa [Value.hasText] using h, rfl⟩
  | _ => cases h

theorem nonBlank_of_not_hasText {v : Value} (h : v.hasText = false) (param : String) :
    ∃ f, nonBlank v param = .error f ∧ f.kind = .invalid := by
  cases v with
  | word w =>
    have hb : isBlankText w.token = true := by simpa [Value.hasText] using h
    exact ⟨.blankText param, by rw [nonBlank, if_pos hb]; rfl, rfl⟩
  | _ => exact ⟨.notText param, rfl, rfl⟩

theorem nonBlank_bind_of_not_hasText {α} {v : Value} (h : v.hasText = false) (param : String)
    (k : String → Except Fault α) :
    ∃ f, (do let text ← nonBlank v param; k text) = .error f ∧ f.kind = .invalid := by
  obtain ⟨f, hf, hk⟩ := nonBlank_of_not_hasText h param
  exact ⟨f, by rw [hf]; rfl, hk⟩

theorem trimmed_of_nonBlank {v : Value} {param s : String} (h : nonBlank v param = .ok s) :
    v.trimmed = s := by
  obtain ⟨w, rfl, -, rfl⟩ := nonBlank_eq_ok.1 h
  rfl

end Check

theorem QueryM.checkedFields_eq_ok_iff_mapM {vs : List Value} {fs : List String} :
    checkedFields vs = .ok fs ↔ vs ≠ [] ∧ vs.mapM (fun v => Check.dottedPath v) = .ok fs := by
  simp [checkedFields, ite_eq_iff, throw_ne_ok]

theorem QueryM.trimmed_of_checkedFields {vs : List Value} {fs : List String}
    (h : checkedFields vs = .ok fs) : vs ≠ [] ∧ vs.map Value.trimmed = fs := by
  obtain ⟨hne, hm⟩ := checkedFields_eq_ok_iff_mapM.1 h
  refine ⟨hne, ?_⟩
  rw [← List.forall₂_eq_eq_eq, List.forall₂_map_left_iff]
  exact (mapM_eq_ok.1 hm).imp fun v f hv => Check.trimmed_of_nonBlank (Check.dottedPath_eq_ok.1 hv).1

theorem QueryM.trimmed_of_isLoneWildcard {vs : List Value} (h : isLoneWildcard vs = true) :
    vs.map Value.trimmed = [wildcard] := by
  unfold isLoneWildcard at h
  split at h
  · rename_i w
    have hw : w.token = wildcard := by simpa using h
    have ht : trim wildcard = wildcard := by decide
    simp [Value.trimmed, hw, ht]
  · cases h

theorem QueryM.of_mem_checkedFields {vs : List Value} {fs : List String} (h : checkedFields vs = .ok fs)
    {f : String} (hf : f ∈ fs) : ∃ v ∈ vs, Check.dottedPath v = .ok f :=
  exists_of_mem_mapM (checkedFields_eq_ok_iff_mapM.1 h).2 hf

/-! ## Chains -/

namespace Chain

theorem start_eq_ok {c c' : Chain} {v : Value} : c.start v = .ok c' ↔
    ∃ text, Check.nonBlank v "where condition" = .ok text ∧ c.isEmpty = true ∧
      c' = c.append ⟨.opening, text⟩ := by
  simp only [start, bind_eq_ok, guarded_eq_ok, pure_eq_ok, @eq_comm _ c', Bool.not_eq_true,
    Bool.not_eq_false']

theorem and_eq_ok {c c' : Chain} {v : Value} : c.and v = .ok c' ↔
    ∃ text, Check.nonBlank v "and_where condition" = .ok text ∧
      c' = c.append ⟨if c.isEmpty then .opening else .joined .and, text⟩ := by
  simp only [Chain.and, bind_eq_ok, pure_eq_ok, @eq_comm _ c']

theorem or_eq_ok {c c' : Chain} {v : Value} : c.or v = .ok c' ↔
    ∃ text, Check.nonBlank v "or_where condition" = .ok text ∧ c.isEmpty = false ∧
      c' = c.append ⟨.joined .or, text⟩ := by
  simp only [Chain.or, bind_eq_ok, guarded_eq_ok, pure_eq_ok, @eq_comm _ c', Bool.not_eq_true]

end Chain

end ClauseQuery
