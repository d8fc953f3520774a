import ClauseQuery.Decimal.Binary64

/-!
# The shortest decimal that reads back

Of the decimals that round to a number, `shortest` finds one with the fewest digits, and of those the
nearest. `overGrid` and `overUnit` bring both sides of a comparison to naturals.
-/

namespace ClauseQuery

structure Decimal where
  digits : Nat
  exponent : Int
  deriving DecidableEq

namespace Binary64

def overGrid (x : Binary64) (e : Int) (quarters : Nat) : Nat :=
  quarters * Nat.pow 2 (x.scale - 2).toNat * Nat.pow 10 (-e).toNat

def overUnit (x : Binary64) (e : Int) (steps : Nat) : Nat :=
  steps * Nat.pow 10 e.toNat * Nat.pow 2 (2 - x.scale).toNat

/-- Half the distance to the neighbour below, in quarters: less above a power of two. -/
def gapBelow (x : Binary64) : Nat :=
  if x.fraction.val = 0 ∧ 1 < x.exponent.val then 1 else 2

/-- The two midpoints round to the number only if its significand is even. -/
def readsBack (x : Binary64) (d : Decimal) : Bool :=
  let low := x.overGrid d.exponent (4 * x.significand - x.gapBelow)
  let high := x.overGrid d.exponent (4 * x.significand + 2)
  let v := x.overUnit d.exponent d.digits
  if x.significand % 2 = 0 then low ≤ v && v ≤ high else low < v && v < high

def floorOn (x : Binary64) (e : Int) : Nat :=
  x.overGrid e (4 * x.significand) / x.overUnit e 1

/-- Of the grid points `d` and `d + 1` around the number, the nearer; between two equally near, the
even one. -/
def nearer (x : Binary64) (e : Int) (d : Nat) : Nat :=
  let twice := 2 * x.overGrid e (4 * x.significand)
  let middle := x.overUnit e (2 * d + 1)
  if twice < middle ∨ (twice = middle ∧ d % 2 = 0) then d else d + 1

def onGrid? (x : Binary64) (e : Int) : Option Decimal :=
  let d := x.floorOn e
  match x.readsBack ⟨d, e⟩, x.readsBack ⟨d + 1, e⟩ with
  | true, true => some ⟨x.nearer e d, e⟩
  | true, false => some ⟨d, e⟩
  | false, true => some ⟨d + 1, e⟩
  | false, false => none

/-- The `k` with `10 ^ (k - 1) ≤ |x| < 10 ^ k`: no positive number is as small as `10 ^ (-400)`. -/
def magnitude (x : Binary64) : Int :=
  (Nat.toDigits 10 (x.floorOn (-400))).length - 400

end Binary64

def Decimal.reduced (d : Decimal) : Decimal :=
  if h : d.digits ≠ 0 ∧ d.digits % 10 = 0 then reduced ⟨d.digits / 10, d.exponent + 1⟩ else d
termination_by d.digits
decreasing_by omega

def Binary64.shortest (x : Binary64) : Decimal :=
  if x.isZero then ⟨0, 0⟩
  else
    let k := x.magnitude
    match (List.range' 1 17).findSome? fun n : Nat => x.onGrid? (k - n) with
    | some d => d.reduced
    | none => ⟨x.floorOn (k - 17), k - 17⟩

end ClauseQuery
