/-! # Double-precision numbers by their three fields -/

namespace ClauseQuery

structure Binary64 where
  negative : Bool
  exponent : Fin 2048
  fraction : Fin 4503599627370496
  deriving DecidableEq

namespace Binary64

def ofBits (bits : UInt64) : Binary64 :=
  let n := bits.toNat
  ⟨9223372036854775808 ≤ n, ⟨n / 4503599627370496 % 2048, Nat.mod_lt _ (by decide)⟩,
    ⟨n % 4503599627370496, Nat.mod_lt _ (by decide)⟩⟩

def isFinite (x : Binary64) : Bool := x.exponent.val != 2047

def isNaN (x : Binary64) : Bool := !x.isFinite && x.fraction.val != 0

def isZero (x : Binary64) : Bool := x.exponent.val == 0 && x.fraction.val == 0

def significand (x : Binary64) : Nat :=
  if x.exponent.val = 0 then x.fraction.val else x.fraction.val + 4503599627370496

def scale (x : Binary64) : Int := max x.exponent.val 1 - 1075

end Binary64

end ClauseQuery
