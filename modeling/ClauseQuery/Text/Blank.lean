/-! # Characters by their code points, and trimming -/

namespace ClauseQuery

def inRanges (ranges : List (Nat × Nat)) (c : Char) : Bool :=
  ranges.any fun (first, last) => first ≤ c.toNat && c.toNat ≤ last

/-- White space of the whole Unicode range, the four information separators included. -/
def isBlank (c : Char) : Bool :=
  let n := c.toNat
  (0x9 ≤ n && n ≤ 0xD) || (0x1C ≤ n && n ≤ 0x20) || n == 0x85 || n == 0xA0 || n == 0x1680 ||
    (0x2000 ≤ n && n ≤ 0x200A) || n == 0x2028 || n == 0x2029 || n == 0x202F || n == 0x205F ||
    n == 0x3000

def dropBlanks (s : List Char) : List Char := s.dropWhile isBlank

def trimChars (s : List Char) : List Char := (dropBlanks (dropBlanks s).reverse).reverse

def trim (s : String) : String := String.ofList (trimChars s.toList)

theorem dropBlanks_dropBlanks (s : List Char) : dropBlanks (dropBlanks s) = dropBlanks s := by
  induction s with
  | nil => rfl
  | cons c s ih => by_cases h : isBlank c <;> simp_all [dropBlanks]

theorem dropBlanks_concat {c : Char} (hc : isBlank c = false) (s : List Char) :
    dropBlanks (s ++ [c]) = dropBlanks s ++ [c] := by
  induction s with
  | nil => simp [dropBlanks, hc]
  | cons d s ih => by_cases h : isBlank d <;> simp_all [dropBlanks]

theorem isBlank_of_dropBlanks_eq_cons {s t : List Char} {c : Char} (h : dropBlanks s = c :: t) :
    isBlank c = false := by
  have := List.head?_dropWhile_not isBlank s
  simpa [show s.dropWhile isBlank = c :: t from h] using this

/-- Trimming the end keeps the first character, so nothing new can be dropped in front. -/
theorem dropBlanks_trimChars (s : List Char) : dropBlanks (trimChars s) = trimChars s := by
  unfold trimChars
  cases h : dropBlanks s with
  | nil => rfl
  | cons c t =>
    have hc := isBlank_of_dropBlanks_eq_cons h
    rw [List.reverse_cons, dropBlanks_concat hc]
    simp [dropBlanks, hc]

theorem trimChars_trimChars (s : List Char) : trimChars (trimChars s) = trimChars s := by
  rw [trimChars, dropBlanks_trimChars, trimChars, List.reverse_reverse, dropBlanks_dropBlanks]

theorem trim_trim (s : String) : trim (trim s) = trim s := by
  simp [trim, trimChars_trimChars]

end ClauseQuery
