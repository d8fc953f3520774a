import ClauseQuery.Decimal.Shortest

/-!
# How decimals are laid out

`plain` never has an exponent, `compact` has one outside `compactRange`.
-/

namespace ClauseQuery

def Decimal.pointAt (d : Decimal) : Int := (Nat.toDigits 10 d.digits).length + d.exponent

/-- The digits with a point after the first `point` of them, and `tail` after a whole number. -/
def layDigits (digits : List Char) (point : Int) (tail : List Char) : List Char :=
  if point ≤ 0 then '0' :: '.' :: (List.replicate (-point).toNat '0' ++ digits)
  else if digits.length ≤ point.toNat then
    digits ++ List.replicate (point.toNat - digits.length) '0' ++ tail
  else digits.take point.toNat ++ '.' :: digits.drop point.toNat

def wholeTail (point : Int) : List Char := if point ≤ 16 then ['.', '0'] else []

def Decimal.plain (d : Decimal) : List Char :=
  layDigits (Nat.toDigits 10 d.digits) d.pointAt (wholeTail d.pointAt)

def inCompactRange (point : Int) : Bool := -4 < point && point ≤ 16

def layExponent (e : Int) : List Char :=
  let digits := Nat.toDigits 10 e.natAbs
  'e' :: (if e < 0 then '-' else '+') :: (List.replicate (2 - digits.length) '0' ++ digits)

def Decimal.compact (d : Decimal) : List Char :=
  if inCompactRange d.pointAt then d.plain
  else layDigits (Nat.toDigits 10 d.digits) 1 [] ++ layExponent (d.pointAt - 1)

namespace Binary64

def sign (x : Binary64) : List Char := if x.negative then ['-'] else []

def plain (x : Binary64) : String := String.ofList (x.sign ++ x.shortest.plain)

def compact (x : Binary64) : String :=
  if x.isNaN then "nan"
  else if x.isFinite then String.ofList (x.sign ++ x.shortest.compact)
  else String.ofList (x.sign ++ ['i', 'n', 'f'])

end Binary64

end ClauseQuery
