/-! # String literals of the query language -/

namespace ClauseQuery

def replaceChar (c : Char) (new s : List Char) : List Char :=
  s.flatMap fun x => if x = c then new else [x]

/-- Backslashes go first, so that the ones written before a quote stay single. -/
def escape (s : List Char) : List Char :=
  replaceChar '"' ['\\', '"'] (replaceChar '\\' ['\\', '\\'] s)

@[simp] theorem escape_nil : escape [] = [] := rfl

/-- The two replacements act as one, on each character by itself. -/
theorem escape_cons (c : Char) (s : List Char) :
    escape (c :: s) = (if c = '"' ∨ c = '\\' then ['\\', c] else [c]) ++ escape s := by
  by_cases h : c = '"' <;> by_cases h' : c = '\\' <;> simp_all [escape, replaceChar]

def quoteChars (s : List Char) : List Char := '"' :: (escape s ++ ['"'])

def quote (s : String) : String := String.ofList (quoteChars s.toList)

/-- Reads up to the closing quote; `escaped` after a backslash, which only a backslash and a quote may
follow. -/
def unquoteBody (escaped : Bool) : List Char → Option (List Char × List Char)
  | [] => none
  | c :: rest =>
    if escaped then
      if c = '\\' ∨ c = '"' then (unquoteBody false rest).map fun (s, r) => (c :: s, r) else none
    else if c = '"' then some ([], rest)
    else if c = '\\' then unquoteBody true rest
    else (unquoteBody false rest).map fun (s, r) => (c :: s, r)

def unquote : List Char → Option (List Char × List Char)
  | [] => none
  | c :: rest => if c = '"' then unquoteBody false rest else none

theorem unquoteBody_escape_append (s r : List Char) :
    unquoteBody false (escape s ++ '"' :: r) = some (s, r) := by
  induction s with
  | nil => simp [unquoteBody]
  | cons c s ih =>
    rw [escape_cons]
    by_cases h : c = '"' <;> by_cases h' : c = '\\' <;> simp_all [unquoteBody]

theorem unquote_quoteChars_append (s r : List Char) : unquote (quoteChars s ++ r) = some (s, r) := by
  simp [quoteChars, unquote, unquoteBody_escape_append]

inductive Place
  | outside | inside | afterBackslash
  deriving DecidableEq

def Place.next (p : Place) (c : Char) : Place :=
  match p with
  | outside => if c = '"' then inside else outside
  | inside => if c = '"' then outside else if c = '\\' then afterBackslash else inside
  | afterBackslash => inside

def Place.after (p : Place) (s : List Char) : Place := s.foldl next p

def splitFrom (sep : Char) (p : Place) : List Char → List (List Char)
  | [] => [[]]
  | c :: rest =>
    if p = .outside ∧ c = sep then [] :: splitFrom sep p rest
    else (splitFrom sep (p.next c) rest).modifyHead (c :: ·)

def splitOutside (sep : Char) (s : List Char) : List (List Char) := splitFrom sep .outside s

end ClauseQuery
