/-!
# Binary floating-point values, exactly

A finite binary64 value is an integer times a power of two. This module takes the bits of a `Float`
apart and says which decimals read back to it: those between the halfway points to its two
neighbours. Everything is exact arithmetic on `Nat` and `Int`; no floating-point operation is used.
-/

namespace SchemaDecls.Numeral

/-- A decimal `digits · 10 ^ exponent`. -/
structure Decimal where
  digits : Nat
  exponent : Int
deriving DecidableEq, Repr

/-- The magnitude `significand · 2 ^ exponent` of a finite binary64 value. -/
structure Binary where
  significand : Nat
  exponent : Int
  /-- The gap to the value below is half the gap to the value above. -/
  narrowBelow : Bool
deriving DecidableEq, Repr

/-- The magnitude that the bits of a finite value stand for; the sign bit is not looked at. -/
def Binary.ofBits (bits : UInt64) : Binary :=
  let biased := ((bits >>> 52) &&& 0x7FF).toNat
  let fraction := (bits &&& 0xFFFFFFFFFFFFF).toNat
  if biased = 0 then ⟨fraction, -1074, false⟩
  else ⟨0x10000000000000 + fraction, (biased : Int) - 1075, fraction == 0 && 1 < biased⟩

/-- Compares `a · 10 ^ i` with `n · 2 ^ j`, by clearing the negative exponents. -/
def compareScaled (a : Nat) (i : Int) (n : Nat) (j : Int) : Ordering :=
  compare ((a * Nat.pow 10 i.toNat) <<< (-j).toNat) ((n * Nat.pow 10 (-i).toNat) <<< j.toNat)

/--
The decimal lies among the reals that round to the value.

The bounds are the halfway points to the neighbours, written in quarters of the last place so that
the narrow gap below a power of two fits as well. Rounding breaks ties to the even significand, so
the bounds themselves belong to the values whose significand is even.
-/
def Binary.readsBack (x : Binary) (d : Decimal) : Bool :=
  let lower := if x.narrowBelow then 4 * x.significand - 1 else 4 * x.significand - 2
  let upper := 4 * x.significand + 2
  let closed := x.significand % 2 == 0
  let atLower := compareScaled d.digits d.exponent lower (x.exponent - 2)
  let atUpper := compareScaled d.digits d.exponent upper (x.exponent - 2)
  (atLower == .gt || (closed && atLower == .eq)) && (atUpper == .lt || (closed && atUpper == .eq))

end SchemaDecls.Numeral
