import ClauseQuery.Text.Quoted

/-!
# Literals delimit themselves

Writing goes over a text twice, reading once: the two replacements are first shown to act as one.
-/

namespace ClauseQuery

def escapeChar (c : Char) : List Char := if c = '"' ∨ c = '\\' then ['\\', c] else [c]

theorem escape_eq_flatMap (s : List Char) : escape s = s.flatMap escapeChar := by
  induction s with
  | nil => rfl
  | cons c s ih =>
    rw [escape_cons, List.flatMap_cons, ih]
    rfl

/-- The backslash that was read and not yet used. -/
def pendingBackslash (escaped : Bool) : List Char := if escaped then ['\\'] else []

theorem eq_of_unquoteBody {escaped : Bool} {t s r : List Char} (h : unquoteBody escaped t = some (s, r)) :
    pendingBackslash escaped ++ t = escape s ++ '"' :: r := by
  induction t generalizing escaped s with
  | nil => cases h
  | cons c t ih =>
    cases escaped with
    | true =>
      simp only [unquoteBody, if_true] at h
      by_cases hc : c = '\\' ∨ c = '"'
      · rw [if_pos hc, Option.map_eq_some_iff] at h
        obtain ⟨⟨s', r'⟩, hbody, hs⟩ := h
        cases hs
        have ht : t = escape s' ++ '"' :: r' := ih hbody
        rw [escape_cons, if_pos hc.symm, ht]
        rfl
      · rw [if_neg hc] at h
        cases h
    | false =>
      simp only [unquoteBody, Bool.false_eq_true, if_false] at h
      by_cases hq : c = '"'
      · rw [if_pos hq] at h
        cases h
        rw [hq]
        rfl
      · rw [if_neg hq] at h
        by_cases hb : c = '\\'
        · rw [if_pos hb] at h
          rw [hb]
          exact ih h
        · rw [if_neg hb, Option.map_eq_some_iff] at h
          obtain ⟨⟨s', r'⟩, hbody, hs⟩ := h
          cases hs
          have ht : t = escape s' ++ '"' :: r' := ih hbody
          rw [escape_cons, if_neg (not_or.2 ⟨hq, hb⟩), ht]
          rfl

theorem unquote_eq_some_iff {t s r : List Char} : unquote t = some (s, r) ↔ t = quoteChars s ++ r := by
  constructor
  · intro h
    cases t with
    | nil => cases h
    | cons c t =>
      rw [unquote] at h
      split at h
      · rename_i hc
        have ht : t = escape s ++ '"' :: r := eq_of_unquoteBody h
        rw [hc, ht]
        simp [quoteChars]
      · cases h
  · intro h
    rw [h]
    exact unquote_quoteChars_append s r

/-- **A literal is read back with what follows it, and nothing else is read.** -/
theorem literals_delimit_themselves :
    (∀ t s r : String, unquote t.toList = some (s.toList, r.toList) ↔ t = quote s ++ r) ∧
    ∀ s : List Char, replaceChar '"' ['\\', '"'] (replaceChar '\\' ['\\', '\\'] s) = s.flatMap escapeChar := by
  refine ⟨fun t s r => ?_, escape_eq_flatMap⟩
  have hl : (quote s ++ r).toList = quoteChars s.toList ++ r.toList := by
    rw [String.toList_append, quote, String.toList_ofList]
  rw [unquote_eq_some_iff, ← hl, String.toList_inj]

example : unquote "\"a\\\\\\\" ;\" ;".toList = some ("a\\\" ;".toList, " ;".toList) := by decide

end ClauseQuery
