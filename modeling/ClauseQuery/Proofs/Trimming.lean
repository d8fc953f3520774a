import ClauseQuery.Check
import Mathlib.Data.List.TakeWhile

/-! # Blanks around a text -/

namespace ClauseQuery

theorem dropBlanks_eq_nil_iff {s : List Char} : dropBlanks s = [] ↔ s.all isBlank = true := by
  rw [dropBlanks, List.dropWhile_eq_nil_iff, List.all_eq_true]

theorem takeWhile_append_dropBlanks (s : List Char) : s.takeWhile isBlank ++ dropBlanks s = s :=
  List.takeWhile_append_dropWhile

theorem all_dropBlanks (s : List Char) : (dropBlanks s).all isBlank = s.all isBlank := by
  conv => rhs; rw [← takeWhile_append_dropBlanks s, List.all_append, List.all_takeWhile]
  rfl

theorem trimChars_eq_nil_iff {s : List Char} : trimChars s = [] ↔ s.all isBlank = true := by
  rw [trimChars, List.reverse_eq_nil_iff, dropBlanks_eq_nil_iff, List.all_reverse, all_dropBlanks]

theorem isBlankText_eq (s : String) : isBlankText s = s.toList.all isBlank := by
  rw [Bool.eq_iff_iff, isBlankText, String.isEmpty_iff, trim, String.ofList_eq_empty_iff,
    trimChars_eq_nil_iff]

theorem exists_pad (s : List Char) :
    ∃ l r, l.all isBlank = true ∧ r.all isBlank = true ∧ s = l ++ trimChars s ++ r := by
  refine ⟨s.takeWhile isBlank, ((dropBlanks s).reverse.takeWhile isBlank).reverse,
    List.all_takeWhile, ?_, ?_⟩
  · rw [List.all_reverse]
    exact List.all_takeWhile
  · rw [trimChars, List.append_assoc, ← List.reverse_append, takeWhile_append_dropBlanks,
      List.reverse_reverse, takeWhile_append_dropBlanks]

section
variable {l r : List Char} (hl : l.all isBlank = true) (hr : r.all isBlank = true)

include hl in
theorem dropBlanks_append (s : List Char) : dropBlanks (l ++ s) = dropBlanks s :=
  List.dropWhile_append_of_pos (List.all_eq_true.1 hl)

include hr in
theorem trimChars_append (s : List Char) : trimChars (s ++ r) = trimChars s := by
  by_cases hs : s.all isBlank = true
  · have hsr : (s ++ r).all isBlank = true := by
      rw [List.all_append, hs, hr]
      rfl
    rw [trimChars_eq_nil_iff.2 hs, trimChars_eq_nil_iff.2 hsr]
  · have hd : dropBlanks (s ++ r) = dropBlanks s ++ r := by
      have hne : ¬(s.dropWhile isBlank).isEmpty = true := by
        intro h
        exact hs (dropBlanks_eq_nil_iff.1 (List.isEmpty_iff.1 h))
      rw [dropBlanks, List.dropWhile_append, if_neg hne]
      rfl
    rw [trimChars, hd, List.reverse_append, dropBlanks_append (by rw [List.all_reverse, hr]), trimChars]

include hl hr in
theorem trimChars_pad (s : List Char) : trimChars (l ++ s ++ r) = trimChars s := by
  rw [trimChars_append hr, trimChars, dropBlanks_append hl, trimChars]

end

theorem trim_pad {l r : String} (hl : isBlankText l = true) (hr : isBlankText r = true) (s : String) :
    trim (l ++ s ++ r) = trim s := by
  rw [isBlankText_eq] at hl hr
  rw [trim, String.toList_append, String.toList_append, trimChars_pad hl hr, trim]

theorem trimChars_eq_self {s : List Char} (h : ∀ c ∈ s.head?, isBlank c = false)
    (h' : ∀ c ∈ s.getLast?, isBlank c = false) : trimChars s = s := by
  have hd : ∀ {t : List Char}, (∀ c ∈ t.head?, isBlank c = false) → dropBlanks t = t := by
    intro t ht
    cases t with
    | nil => rfl
    | cons c t => rw [dropBlanks, List.dropWhile_cons_of_neg (by simp [ht c rfl])]
  rw [trimChars, hd h, hd (by rwa [List.head?_reverse]), List.reverse_reverse]

theorem head?_trimChars {s : List Char} {c : Char} (h : c ∈ (trimChars s).head?) : isBlank c = false := by
  obtain ⟨t, ht⟩ := List.head?_eq_some_iff.1 h
  rw [← dropBlanks_trimChars] at ht
  exact isBlank_of_dropBlanks_eq_cons ht

theorem getLast?_trimChars {s : List Char} {c : Char} (h : c ∈ (trimChars s).getLast?) : isBlank c = false := by
  rw [trimChars, List.getLast?_reverse] at h
  obtain ⟨t, ht⟩ := List.head?_eq_some_iff.1 h
  exact isBlank_of_dropBlanks_eq_cons ht

end ClauseQuery
