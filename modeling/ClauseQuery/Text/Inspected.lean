import ClauseQuery.Text.Printable

/-! # Single-quoted text, for messages -/

namespace ClauseQuery

def hex (width n : Nat) : List Char :=
  let digits := Nat.toDigits 16 n
  List.replicate (width - digits.length) '0' ++ digits

def quoteMark (s : List Char) : Char :=
  if s.contains '\x27' && !s.contains '"' then '"' else '\x27'

def inspectChar (mark c : Char) : List Char :=
  if c = mark ∨ c = '\\' then ['\\', c]
  else if c = '\t' then ['\\', 't']
  else if c = '\n' then ['\\', 'n']
  else if c = '\r' then ['\\', 'r']
  else if isPrintable c then [c]
  else if c.toNat ≤ 0xFF then '\\' :: 'x' :: hex 2 c.toNat
  else if c.toNat ≤ 0xFFFF then '\\' :: 'u' :: hex 4 c.toNat
  else '\\' :: 'U' :: hex 8 c.toNat

def inspectChars (s : List Char) : List Char :=
  let mark := quoteMark s
  mark :: (s.flatMap (inspectChar mark) ++ [mark])

def inspectText (s : String) : String := String.ofList (inspectChars s.toList)

/-- Bytes read as the characters of their codes, of which only the ASCII ones are shown. -/
def inspectBytes (bytes : List UInt8) : String :=
  let chars := bytes.map fun b => Char.ofNat b.toNat
  let mark := quoteMark chars
  let written := chars.flatMap fun c =>
    if c.toNat < 0x80 then inspectChar mark c else '\\' :: 'x' :: hex 2 c.toNat
  String.ofList ('b' :: mark :: (written ++ [mark]))

end ClauseQuery
