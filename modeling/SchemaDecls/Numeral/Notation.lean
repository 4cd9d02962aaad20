import SchemaDecls.Numeral.Shortest

/-!
# How numbers are written

A finite number is written with the digits of its shortest decimal. It is written positionally, with
at least one digit on either side of the point, while the exponent of its leading digit is at least
`-4` and below `16`; beyond that it has a mantissa and a signed exponent of at least two digits.
Zero keeps its sign.

What is written for the three special values depends on the reader and is passed in as `Specials`.
-/

namespace SchemaDecls.Numeral

/-- The texts of the values that are no numbers. -/
structure Specials where
  nan : String
  infinity : String

/-- The digits of a natural number in base ten. -/
def digitsOf (n : Nat) : List Char := Nat.toDigits 10 n

/-- An integer: its digits, behind a minus if it is negative. -/
def integer (n : Int) : List Char :=
  if n < 0 then '-' :: digitsOf n.natAbs else digitsOf n.natAbs

/-- The digits without the zeros at their end. -/
def dropTrailingZeros (digits : List Char) : List Char :=
  (digits.reverse.dropWhile (· == '0')).reverse

/-- Positional notation of `0.digits · 10 ^ point`. -/
def positional (digits : List Char) (point : Int) : List Char :=
  if point ≤ 0 then '0' :: '.' :: (List.replicate (-point).toNat '0' ++ digits)
  else if digits.length ≤ point.toNat then
    digits ++ List.replicate (point.toNat - digits.length) '0' ++ ['.', '0']
  else digits.take point.toNat ++ '.' :: digits.drop point.toNat

/-- Mantissa and exponent of a number whose leading digit has exponent `e`. -/
def scientific (digits : List Char) (e : Int) : List Char :=
  let mantissa :=
    match digits with
    | [] => []
    | [d] => [d]
    | d :: rest => d :: '.' :: rest
  let exponent := digitsOf e.natAbs
  mantissa ++ 'e' :: (if e < 0 then '-' else '+') ::
    (if exponent.length < 2 then '0' :: exponent else exponent)

/-- A positive decimal in the notation that its size asks for. -/
def layout (d : Decimal) : List Char :=
  let all := digitsOf d.digits
  let point : Int := all.length + d.exponent
  let digits := dropTrailingZeros all
  if -4 < point ∧ point ≤ 16 then positional digits point else scientific digits (point - 1)

/-- The text of a floating-point value. -/
def render (specials : Specials) (x : Float) : String :=
  if x.isNaN then specials.nan
  else
    let sign := if x.toBits >>> 63 == 0 then "" else "-"
    if x.isInf then sign ++ specials.infinity
    else
      let magnitude := Binary.ofBits x.toBits
      if magnitude.significand = 0 then sign ++ "0.0"
      else sign ++ String.ofList (layout magnitude.shortest)

example : layout ⟨1, 16⟩ = ['1', 'e', '+', '1', '6'] := by decide +kernel

example : layout ⟨15, -8⟩ = ['1', '.', '5', 'e', '-', '0', '7'] := by decide +kernel

example : layout ⟨15, -1⟩ = ['1', '.', '5'] := by decide +kernel

end SchemaDecls.Numeral
