import ClauseQuery.Text.CaseTable

/-! # Lower case -/

namespace ClauseQuery

def lowerCode (n : Nat) : Nat :=
  match loweringRuns.find? (·.covers n) with
  | some r => (n + r.shift).toNat
  | none => n

/-- The one capital whose lower-case form has two characters is the I with a dot. -/
def lowerChar (c : Char) : List Char :=
  if c.toNat = 0x130 then ['i', '\u0307'] else [Char.ofNat (lowerCode c.toNat)]

def reachesCased (s : List Char) : Bool :=
  match s.dropWhile isCaseIgnorable with
  | [] => false
  | c :: _ => isCased c

/-- A capital sigma ends a word when a letter comes before it and none after it. -/
def endsWord (before after : List Char) : Bool := reachesCased before && !reachesCased after

def lowerAfter (before : List Char) : List Char → List Char
  | [] => []
  | c :: rest =>
    (if c.toNat = 0x3A3 then [if endsWord before rest then '\u03C2' else '\u03C3']
      else lowerChar c) ++ lowerAfter (c :: before) rest

def lowerChars (s : List Char) : List Char := lowerAfter [] s

def lower (s : String) : String := String.ofList (lowerChars s.toList)

end ClauseQuery
