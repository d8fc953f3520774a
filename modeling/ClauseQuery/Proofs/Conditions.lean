import ClauseQuery.Condition
import ClauseQuery.Proofs.Checks
import ClauseQuery.Proofs.Sealed

/-!
# The texts of conditions

Literals are sealed against all separators of a query, and conditions on plain fields against its marks.
-/

namespace ClauseQuery

def separators : List Char := [',', ';', '&', '|']

/-- Free of separators and quotes. -/
def IsPlain (s : String) : Prop := ∀ c ∈ s.toList, c ≠ '"' ∧ c ∉ separators

instance (s : String) : Decidable (IsPlain s) :=
  List.decidableBAll (fun c => c ≠ '"' ∧ c ∉ separators) s.toList

theorem IsPlain.sealed {s : String} (h : IsPlain s) : Sealed separators s.toList :=
  sealed_of_forall h

theorem sealed_commas {marks : List Char} (hm : ',' ∉ marks) {names : List String}
    (h : ∀ n ∈ names, Sealed marks n.toList) : Sealed marks (",".intercalate names).toList := by
  rw [String.toList_intercalate]
  refine sealed_intercalate (sealed_cons (by decide) hm sealed_nil) fun x hx => ?_
  obtain ⟨n, hn, rfl⟩ := List.mem_map.1 hx
  exact h n hn

theorem toList_trim (s : String) : (trim s).toList = trimChars s.toList := String.toList_ofList

theorem IsPlain.trim {s : String} (h : IsPlain s) : IsPlain (trim s) := by
  intro c hc
  rw [toList_trim] at hc
  have hd : c ∈ (dropBlanks s.toList).reverse := List.dropWhile_subset _ (List.mem_reverse.1 hc)
  exact h c (List.dropWhile_subset _ (List.mem_reverse.1 hd))

/-! ## Numbers -/

def IsNumeral (c : Char) : Prop := c.isDigit = true ∨ c = '-' ∨ c = '.'

theorem IsNumeral.plain {c : Char} (h : IsNumeral c) : c ≠ '"' ∧ c ∉ separators := by
  rcases h with h | rfl | rfl
  · refine ⟨fun hc => ?_, fun hc => ?_⟩
    · subst hc; exact absurd h (by decide)
    · have hs : ∀ c ∈ separators, c.isDigit = false := by simp [separators]
      rw [hs c hc] at h; cases h
  · decide
  · decide

theorem isNumeral_of_mem_toDigits {n : Nat} {c : Char} (h : c ∈ Nat.toDigits 10 n) : IsNumeral c :=
  Or.inl (Nat.isDigit_of_mem_toDigits (by decide) (by decide) h)

theorem isPlain_toString (n : Int) : IsPlain (toString n) := by
  intro c hc
  refine IsNumeral.plain ?_
  rw [Int.toString_eq_repr, Int.repr_eq_if] at hc
  split at hc
  · rw [Nat.toList_repr] at hc
    exact isNumeral_of_mem_toDigits hc
  · rw [String.toList_append, Nat.toList_repr] at hc
    rcases List.mem_append.1 hc with hc | hc
    · exact Or.inr (Or.inl (List.mem_singleton.1 hc))
    · exact isNumeral_of_mem_toDigits hc

theorem isNumeral_layDigits {digits tail : List Char} {point : Int} (hd : ∀ c ∈ digits, IsNumeral c)
    (ht : ∀ c ∈ tail, IsNumeral c) : ∀ c ∈ layDigits digits point tail, IsNumeral c := by
  have hz : ∀ n c, c ∈ List.replicate n '0' → IsNumeral c := fun n c hc => by
    rw [List.eq_of_mem_replicate hc]; exact Or.inl (by decide)
  have hp : IsNumeral '.' := Or.inr (Or.inr rfl)
  unfold layDigits
  split
  · simp only [List.forall_mem_cons, List.forall_mem_append]
    exact ⟨hz 1 _ (by simp), hp, hz _, hd⟩
  · split
    · simp only [List.forall_mem_append]
      exact ⟨⟨hd, hz _⟩, ht⟩
    · simp only [List.forall_mem_append, List.forall_mem_cons]
      exact ⟨fun c hc => hd c (List.mem_of_mem_take hc), hp, fun c hc => hd c (List.mem_of_mem_drop hc)⟩

theorem isPlain_plain (x : Binary64) : IsPlain x.plain := by
  intro c hc
  refine IsNumeral.plain ?_
  rw [Binary64.plain, String.toList_ofList] at hc
  rcases List.mem_append.1 hc with hc | hc
  · unfold Binary64.sign at hc
    split at hc
    · exact Or.inr (Or.inl (List.mem_singleton.1 hc))
    · cases hc
  · refine isNumeral_layDigits (fun c h => isNumeral_of_mem_toDigits h) (fun c h => ?_) c hc
    unfold wholeTail at h
    split at h
    · rcases List.mem_cons.1 h with rfl | h
      · exact Or.inr (Or.inr rfl)
      · rw [List.mem_singleton.1 h]; exact Or.inl (by decide)
    · cases h

/-! ## Literals -/

theorem sealed_quote (s : String) : Sealed separators (quote s).toList := by
  rw [quote, String.toList_ofList]
  exact sealed_quoteChars (by decide) _

theorem Value.sealed_literal {v : Value} {s : String} (h : v.literal = .ok s) :
    Sealed separators s.toList := by
  unfold literal at h
  split at h
  · rename_i b
    cases h
    cases b <;> exact IsPlain.sealed (by decide)
  · obtain ⟨-, rfl⟩ := integerText_eq_ok.1 h
    exact (isPlain_toString _).sealed
  · split at h
    · cases h; exact (isPlain_plain _).sealed
    · cases h
  · obtain ⟨_, -, h⟩ := bind_eq_ok.1 h
    cases h
    exact sealed_quote _

/-! ## Conditions -/

namespace Condition

theorem literal_of_mem_arrayOperands {c : Comparison} {v : Value} {ss : List String}
    (h : arrayOperands c v = .ok ss) {s : String} (hs : s ∈ ss) : ∃ v, Value.literal v = .ok s := by
  unfold arrayOperands at h
  split at h
  · cases h
  · split at h
    · cases h
    · obtain ⟨x, -, hx⟩ := exists_of_mem_mapM h hs
      exact ⟨x, hx⟩

theorem literal_of_scalarOperand {c : Comparison} {v : Value} {s : String}
    (h : scalarOperand c v = .ok s) : v.literal = .ok s := by
  unfold scalarOperand at h
  split at h
  · cases h
  · split at h
    · cases h
    · exact h

theorem checkedField_eq_ok {v : Value} {s : String} : checkedField v = .ok s ↔
    ∃ w, v = .word w ∧ isBlankText w.token = false ∧ trim w.token = s := by
  cases v with
  | word w =>
    simp [checkedField, ite_eq_iff, throw_ne_ok, pure_eq_ok]
  | _ => simp [checkedField, throw_ne_ok]

theorem parts_of_make {field value comparison : Value} {c : Condition}
    (h : make field value comparison = .ok c) :
    checkedField field = .ok c.field ∧ ∀ s ∈ c.operands, ∃ v, Value.literal v = .ok s := by
  obtain ⟨name, hname, h⟩ := bind_eq_ok.1 h
  obtain ⟨o, -, h⟩ := bind_eq_ok.1 h
  split at h
  · obtain ⟨ss, hss, h⟩ := bind_eq_ok.1 h
    cases h
    exact ⟨hname, fun s hs => literal_of_mem_arrayOperands hss hs⟩
  · obtain ⟨s, hs, h⟩ := bind_eq_ok.1 h
    cases h
    refine ⟨hname, fun s' hs' => ⟨value, ?_⟩⟩
    rw [List.mem_singleton.1 hs']
    exact literal_of_scalarOperand hs

/-- What ends a condition inside a query. -/
def marks : List Char := [';', '&', '|']

theorem sealed_of_isPlain {s : String} (h : IsPlain s) : Sealed marks s.toList :=
  h.sealed.mono (by decide)

theorem isPlain_token (c : Comparison) : IsPlain c.token := by cases c <;> decide

theorem isPlain_brackets {c : Comparison} {opening closing : String}
    (h : c.brackets = some (opening, closing)) : IsPlain opening ∧ IsPlain closing := by
  cases c <;> cases h <;> decide

theorem sealed_text {c : Condition} (hf : IsPlain c.field)
    (ho : ∀ s ∈ c.operands, Sealed separators s.toList) : Sealed marks c.text.toList := by
  have hops : Sealed marks (",".intercalate c.operands).toList :=
    sealed_commas (by decide) fun s hs => (ho s hs).mono (by decide)
  have hfield := sealed_of_isPlain hf
  unfold text
  split
  · rename_i opening closing hb
    obtain ⟨h₁, h₂⟩ := isPlain_brackets hb
    simp only [String.toList_append]
    have heq : Sealed marks " = ".toList := sealed_of_isPlain (by decide)
    exact ((((hfield.append heq).append (sealed_of_isPlain h₁)).append hops).append
      (sealed_of_isPlain h₂))
  · simp only [String.toList_append]
    have hsp : Sealed marks " ".toList := sealed_of_isPlain (by decide)
    have htok := sealed_of_isPlain (isPlain_token c.comparison)
    exact (((hfield.append hsp).append htok).append hsp).append hops

theorem sealed_text_of_make {w : Word} (hw : IsPlain w.token) {value comparison : Value}
    {c : Condition} (h : make w value comparison = .ok c) : Sealed marks c.text.toList := by
  obtain ⟨hf, ho⟩ := parts_of_make h
  obtain ⟨w', hw', -, hf⟩ := checkedField_eq_ok.1 hf
  cases hw'
  refine sealed_text (by rw [← hf]; exact hw.trim) fun s hs => ?_
  obtain ⟨v, hv⟩ := ho s hs
  exact v.sealed_literal hv

end Condition

end ClauseQuery
