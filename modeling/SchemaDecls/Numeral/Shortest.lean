import SchemaDecls.Numeral.Binary

/-!
# Shortest decimals

The shortest decimal of a binary value has the fewest digits that read back to the value, and of
the decimals with so many digits it is the one nearest to the value; a tie goes to the even digit.

The search is the definition turned into a loop. For one digit, two digits and so on, it looks at
the two decimals with that many digits that enclose the value. Seventeen digits always suffice for
binary64; should they not, the exact decimal of the value is taken.
-/

namespace SchemaDecls.Numeral

namespace Binary

/-- The value in units of `10 ^ grid`, as a numerator and a denominator. -/
def inUnits (x : Binary) (grid : Int) : Nat × Nat :=
  ((x.significand * Nat.pow 10 (-grid).toNat) <<< x.exponent.toNat,
    Nat.pow 10 grid.toNat <<< (-x.exponent).toNat)

/--
The least power of ten above a value that is not zero.

The binary logarithm gives the scale up to a step or two, since `30103 / 100000` is the logarithm
of two to six places; exact comparisons settle the rest.
-/
def scale (x : Binary) : Int :=
  let guess := (((x.significand.log2 : Int) + x.exponent) * 30103).fdiv 100000
  let candidates := (List.range 5).map fun i => guess - 1 + Int.ofNat i
  (candidates.find? fun k => compareScaled 1 k x.significand x.exponent == .gt).getD (guess + 4)

/-- The decimal on a grid that reads back to the value, the nearer one if both neighbours do. -/
def onGrid? (x : Binary) (grid : Int) : Option Decimal :=
  let (num, den) := x.inUnits grid
  let below : Decimal := ⟨num / den, grid⟩
  let above : Decimal := ⟨num / den + 1, grid⟩
  match x.readsBack below, x.readsBack above with
  | true, false => some below
  | false, true => some above
  | false, false => none
  | true, true =>
      match compare (2 * num) ((2 * (num / den) + 1) * den) with
      | .lt => some below
      | .gt => some above
      | .eq => some (if num / den % 2 = 0 then below else above)

/-- The exact decimal of the value. -/
def exact (x : Binary) : Decimal :=
  if 0 ≤ x.exponent then ⟨x.significand <<< x.exponent.toNat, 0⟩
  else ⟨x.significand * Nat.pow 5 (-x.exponent).toNat, x.exponent⟩

/-- The shortest decimal of a value that is not zero. -/
def shortest (x : Binary) : Decimal :=
  let scale := x.scale
  ((List.range 17).findSome? fun n => x.onGrid? (scale - Int.ofNat (n + 1))).getD x.exact

end Binary

end SchemaDecls.Numeral
