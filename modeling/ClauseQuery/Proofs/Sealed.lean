import ClauseQuery.Text.Blank
import ClauseQuery.Text.Quoted
import ClauseQuery.Text.Quoted

/-!
# Sealed texts

The first mark that a reader with an eye on literals meets is the one that follows a sealed text.
-/

namespace ClauseQuery

inductive SealedFrom (marks : List Char) : Place → List Char → Prop
  | done : SealedFrom marks .outside []
  | step {p : Place} {c : Char} {s : List Char} (hc : p = .outside → c ∉ marks)
      (hs : SealedFrom marks (p.next c) s) : SealedFrom marks p (c :: s)

def Sealed (marks s : List Char) : Prop := SealedFrom marks .outside s

section
variable {marks : List Char}

theorem sealedFrom_nil {p : Place} : SealedFrom marks p [] ↔ p = .outside := by
  constructor
  · intro h; cases h; rfl
  · intro h; rw [h]; exact .done

theorem sealedFrom_cons {p : Place} {c : Char} {s : List Char} :
    SealedFrom marks p (c :: s) ↔ (p = .outside → c ∉ marks) ∧ SealedFrom marks (p.next c) s := by
  constructor
  · intro h
    cases h with
    | step hc hs => exact ⟨hc, hs⟩
  · intro ⟨hc, hs⟩; exact .step hc hs

instance decidableSealedFrom : ∀ (p : Place) (s : List Char), Decidable (SealedFrom marks p s)
  | _, [] => decidable_of_iff _ sealedFrom_nil.symm
  | p, c :: s =>
    have := decidableSealedFrom (p.next c) s
    decidable_of_iff _ sealedFrom_cons.symm

instance (s : List Char) : Decidable (Sealed marks s) := decidableSealedFrom .outside s

theorem sealed_nil : Sealed marks [] := .done

theorem SealedFrom.append {p : Place} {s t : List Char} (hs : SealedFrom marks p s)
    (ht : Sealed marks t) : SealedFrom marks p (s ++ t) := by
  induction hs with
  | done => exact ht
  | step hc _ ih => exact .step hc ih

theorem Sealed.append {s t : List Char} (hs : Sealed marks s) (ht : Sealed marks t) :
    Sealed marks (s ++ t) :=
  SealedFrom.append hs ht

theorem SealedFrom.mono {marks' : List Char} (hm : marks' ⊆ marks) {p : Place} {s : List Char}
    (hs : SealedFrom marks p s) : SealedFrom marks' p s := by
  induction hs with
  | done => exact .done
  | step hc _ ih => exact .step (fun hp hmem => hc hp (hm hmem)) ih

theorem Sealed.mono {marks' s : List Char} (hs : Sealed marks s) (hm : marks' ⊆ marks) :
    Sealed marks' s :=
  SealedFrom.mono hm hs

/-! ## Texts that are sealed -/

theorem next_outside {c : Char} (hc : c ≠ '"') : Place.outside.next c = .outside := by
  rw [Place.next, if_neg hc]

theorem sealed_cons {c : Char} {s : List Char} (hc : c ≠ '"') (hm : c ∉ marks) (hs : Sealed marks s) :
    Sealed marks (c :: s) :=
  .step (fun _ => hm) (by rw [next_outside hc]; exact hs)

theorem sealed_of_forall : ∀ {s : List Char}, (∀ c ∈ s, c ≠ '"' ∧ c ∉ marks) → Sealed marks s
  | [], _ => sealed_nil
  | c :: s, h => by
    obtain ⟨hc, hm⟩ := h c (List.mem_cons_self ..)
    exact sealed_cons hc hm (sealed_of_forall fun d hd => h d (List.mem_cons_of_mem _ hd))

theorem sealedFrom_escape (s : List Char) : SealedFrom marks .inside (escape s ++ ['"']) := by
  induction s with
  | nil => exact .step (fun h => absurd h (by decide)) .done
  | cons c s ih =>
    rw [escape_cons]
    by_cases hc : c = '"' ∨ c = '\\'
    · rw [if_pos hc]
      exact .step (fun h => absurd h (by decide)) (.step (fun h => absurd h (by decide)) ih)
    · rw [if_neg hc]
      have hn : Place.inside.next c = .inside := by
        rw [not_or] at hc
        rw [Place.next, if_neg hc.1, if_neg hc.2]
      refine .step (fun h => absurd h (by decide)) ?_
      rw [hn]; exact ih

theorem sealed_quoteChars (hm : '"' ∉ marks) (s : List Char) : Sealed marks (quoteChars s) :=
  .step (fun _ => hm) (sealedFrom_escape s)

theorem sealed_intercalate {sep : List Char} (hsep : Sealed marks sep) : ∀ {xs : List (List Char)},
    (∀ x ∈ xs, Sealed marks x) → Sealed marks (sep.intercalate xs)
  | [], _ => sealed_nil
  | [x], h => by
    rw [List.intercalate_singleton]
    exact h x (List.mem_cons_self ..)
  | x :: y :: xs, h => by
    rw [List.intercalate_cons_cons]
    have hx := h x (List.mem_cons_self ..)
    have hr := sealed_intercalate hsep fun z hz => h z (List.mem_cons_of_mem _ hz)
    exact (hx.append hsep).append hr

theorem ne_quote_of_isBlank {c : Char} (hc : isBlank c = true) : c ≠ '"' := by
  rintro rfl
  exact absurd hc (by decide)

theorem Sealed.dropBlanks : ∀ {s : List Char}, Sealed marks s → Sealed marks (dropBlanks s)
  | [], _ => sealed_nil
  | c :: s, hs => by
    unfold ClauseQuery.dropBlanks
    rw [List.dropWhile_cons]
    split
    · rename_i hb
      have hr := (sealedFrom_cons.1 hs).2
      rw [next_outside (ne_quote_of_isBlank hb)] at hr
      exact Sealed.dropBlanks hr
    · exact hs

theorem SealedFrom.of_concat {b : Char} (hb : isBlank b = true) : ∀ {p : Place} {s : List Char},
    SealedFrom marks p (s ++ [b]) → SealedFrom marks p s
  | p, [], hs => by
    have hn : p.next b = .outside := sealedFrom_nil.1 (sealedFrom_cons.1 hs).2
    have hq := ne_quote_of_isBlank hb
    -- a blank closes no literal
    cases p with
    | outside => exact .done
    | inside =>
      rw [Place.next, if_neg hq] at hn
      split at hn <;> cases hn
    | afterBackslash => cases hn
  | _, _ :: _, hs => by
    obtain ⟨hc, hs⟩ := sealedFrom_cons.1 hs
    exact .step hc (of_concat hb hs)

theorem Sealed.dropBlanks_reverse : ∀ {s : List Char}, Sealed marks s.reverse →
    Sealed marks (ClauseQuery.dropBlanks s).reverse
  | [], hs => hs
  | c :: s, hs => by
    unfold ClauseQuery.dropBlanks
    rw [List.dropWhile_cons]
    split
    · rename_i hb
      rw [List.reverse_cons] at hs
      exact Sealed.dropBlanks_reverse (SealedFrom.of_concat hb hs)
    · exact hs

theorem Sealed.trimChars {s : List Char} (hs : Sealed marks s) : Sealed marks (trimChars s) := by
  refine Sealed.dropBlanks_reverse ?_
  rw [List.reverse_reverse]
  exact hs.dropBlanks

/-! ## Reading sealed texts -/

def AtMark (marks t : List Char) : Prop := ∀ c ∈ t.head?, c ∈ marks

/-- Of two texts that are sealed up to a mark, neither goes on where the other one ends. -/
theorem SealedFrom.append_inj : ∀ {p : Place} {s s' t t' : List Char}, SealedFrom marks p s →
    SealedFrom marks p s' → AtMark marks t → AtMark marks t' → s ++ t = s' ++ t' → s = s' ∧ t = t'
  | _, [], [], _, _, _, _, _, _, h => ⟨rfl, h⟩
  | p, [], c :: s', t, _, hs, hs', ht, _, h => by
    rw [List.nil_append] at h
    have hc := (sealedFrom_cons.1 hs').1 (sealedFrom_nil.1 hs)
    exact absurd (ht c (by rw [h]; rfl)) hc
  | p, c :: s, [], _, t', hs, hs', _, ht', h => by
    rw [List.nil_append] at h
    have hc := (sealedFrom_cons.1 hs).1 (sealedFrom_nil.1 hs')
    exact absurd (ht' c (by rw [← h]; rfl)) hc
  | p, c :: s, c' :: s', _, _, hs, hs', ht, ht', h => by
    obtain ⟨rfl, hr⟩ := List.cons.inj h
    obtain ⟨rfl, rfl⟩ := append_inj (sealedFrom_cons.1 hs).2 (sealedFrom_cons.1 hs').2 ht ht' hr
    exact ⟨rfl, rfl⟩

theorem Sealed.append_inj {s s' t t' : List Char} (hs : Sealed marks s) (hs' : Sealed marks s')
    (ht : AtMark marks t) (ht' : AtMark marks t') (h : s ++ t = s' ++ t') : s = s' ∧ t = t' :=
  SealedFrom.append_inj hs hs' ht ht' h

end

theorem splitFrom_sealed {sep : Char} {p : Place} {s : List Char} (hs : SealedFrom [sep] p s) :
    splitFrom sep p s = [s] := by
  induction hs with
  | done => rfl
  | @step p c s hc _ ih =>
    have hne : ¬(p = .outside ∧ c = sep) := fun h => hc h.1 (by simp [h.2])
    rw [splitFrom, if_neg hne, ih]
    rfl

theorem splitFrom_append {sep : Char} {p : Place} {s : List Char} (hs : SealedFrom [sep] p s)
    (t : List Char) : splitFrom sep p (s ++ sep :: t) = s :: splitOutside sep t := by
  induction hs with
  | done =>
    rw [List.nil_append, splitFrom, if_pos ⟨rfl, rfl⟩]
    rfl
  | @step p c s hc _ ih =>
    have hne : ¬(p = .outside ∧ c = sep) := fun h => hc h.1 (by simp [h.2])
    rw [List.cons_append, splitFrom, if_neg hne, ih]
    rfl

/-- Splitting finds the separators that joining put between sealed texts, and no others. -/
theorem splitOutside_intercalate {sep : Char} : ∀ {xs : List (List Char)}, xs ≠ [] →
    (∀ x ∈ xs, Sealed [sep] x) → splitOutside sep ([sep].intercalate xs) = xs
  | [x], _, h => by
    rw [List.intercalate_singleton]
    exact splitFrom_sealed (h x (List.mem_cons_self ..))
  | x :: y :: xs, _, h => by
    rw [List.intercalate_cons_cons, List.append_assoc, List.singleton_append, splitOutside,
      splitFrom_append (h x (List.mem_cons_self ..))]
    have ih := splitOutside_intercalate (List.cons_ne_nil y xs) fun z hz =>
      h z (List.mem_cons_of_mem _ hz)
    rw [ih]

theorem splitFrom_ne_nil (sep : Char) : ∀ (p : Place) (s : List Char), splitFrom sep p s ≠ []
  | _, [] => List.cons_ne_nil _ _
  | p, c :: s => by
    rw [splitFrom]
    split
    · exact List.cons_ne_nil _ _
    · obtain ⟨x, xs, hx⟩ := List.exists_cons_of_ne_nil (splitFrom_ne_nil sep (p.next c) s)
      rw [hx]
      exact List.cons_ne_nil _ _

theorem intercalate_splitFrom (sep : Char) : ∀ (p : Place) (s : List Char),
    [sep].intercalate (splitFrom sep p s) = s
  | _, [] => rfl
  | p, c :: s => by
    rw [splitFrom]
    split
    · rename_i h
      obtain ⟨x, xs, hx⟩ := List.exists_cons_of_ne_nil (splitFrom_ne_nil sep p s)
      have ih := intercalate_splitFrom sep p s
      rw [hx] at ih ⊢
      rw [List.intercalate_cons_cons, ih, h.2]
      rfl
    · obtain ⟨x, xs, hx⟩ := List.exists_cons_of_ne_nil (splitFrom_ne_nil sep (p.next c) s)
      have ih := intercalate_splitFrom sep (p.next c) s
      rw [hx] at ih ⊢
      rw [List.modifyHead_cons, List.intercalate_cons_cons_left, ih]

theorem intercalate_splitOutside (sep : Char) (s : List Char) : [sep].intercalate (splitOutside sep s) = s :=
  intercalate_splitFrom sep .outside s

end ClauseQuery
