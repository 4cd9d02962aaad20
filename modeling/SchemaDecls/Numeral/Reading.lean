import SchemaDecls.Text.Blank
import SchemaDecls.Text.DecimalDigit

/-!
# Reading numbers

The accepted texts are: an optional sign, then digits with at most one point among them and at least
one digit, then an optional exponent (`e` or `E`, an optional sign, digits). A single underscore may
stand between two digits. In place of digits, `inf`, `infinity` and `nan` are read in any case.
Blanks around the number are skipped, and the decimal digits of every script count as digits.

The value is the nearest binary64 value. Decimals beyond its range are infinite or zero.
-/

namespace SchemaDecls.Numeral

/-- The value of a decimal digit. Digits come in runs of ten, from zero to nine. -/
def digitValue? (c : Char) : Option Nat :=
  (Text.decimalDigitRanges.find? fun r => r.1 ≤ c.toNat && c.toNat ≤ r.2).map fun r =>
    (c.toNat - r.1) % 10

/-- Reads a run of digits with single underscores between them: their values and the rest. -/
def readDigits : List Char → List Nat × List Char
  | [] => ([], [])
  | '_' :: rest => ([], '_' :: rest)
  | c :: '_' :: d :: rest =>
      match digitValue? c, digitValue? d with
      | some v, some _ => let (vs, r) := readDigits (d :: rest); (v :: vs, r)
      | some v, none => ([v], '_' :: d :: rest)
      | none, _ => ([], c :: '_' :: d :: rest)
  | c :: rest =>
      match digitValue? c with
      | some v => let (vs, r) := readDigits rest; (v :: vs, r)
      | none => ([], c :: rest)

/-- Reads an optional sign; `true` means minus. -/
def readSign : List Char → Bool × List Char
  | '-' :: rest => (true, rest)
  | '+' :: rest => (false, rest)
  | s => (false, s)

/-- The number that a list of digits stands for in base ten. -/
def ofDigits (digits : List Nat) : Nat := digits.foldl (fun n d => 10 * n + d) 0

/--
The value nearest to `digits · 10 ^ exponent`.

Far outside the range of binary64 the answer is known without the arithmetic: with more than 400
places before the point the value is infinite, with more than 400 zeros behind it the value is zero.
-/
def nearest (digits : List Nat) (exponent : Int) : Float :=
  let n := ofDigits digits
  let places : Int := (digitCount n : Int) + exponent
  if n = 0 then 0.0
  else if 400 < places then Float.ofBits 0x7FF0000000000000
  else if places < -400 then 0.0
  else Float.ofScientific n (exponent < 0) exponent.natAbs
where
  /-- The number of digits of a number in base ten. -/
  digitCount (n : Nat) : Nat := (Nat.toDigits 10 n).length

/-- Reads the exponent at the end of a number; no exponent counts as zero. -/
def readExponent? : List Char → Option Int
  | [] => some 0
  | c :: rest =>
      if c = 'e' ∨ c = 'E' then
        let (minus, rest) := readSign rest
        match readDigits rest with
        | ([], _) => none
        | (ds, []) => some (if minus then -(ofDigits ds : Int) else ofDigits ds)
        | (_, _ :: _) => none
      else none

/-- Reads an unsigned number. -/
def readMagnitude? (s : List Char) : Option Float :=
  let (whole, rest) := readDigits s
  let (fraction, rest) :=
    match rest with
    | '.' :: rest => readDigits rest
    | rest => ([], rest)
  if whole.isEmpty && fraction.isEmpty then none
  else (readExponent? rest).map fun e => nearest (whole ++ fraction) (e - fraction.length)

/-- The text without the blanks at either end. -/
def trimBlanks (s : List Char) : List Char :=
  ((s.dropWhile Text.isBlank).reverse.dropWhile Text.isBlank).reverse

/-- The number that a text stands for. -/
def read? (s : String) : Option Float :=
  let (minus, rest) := readSign (trimBlanks s.toList)
  let magnitude? : Option Float :=
    match String.ofList (rest.map Char.toLower) with
    | "inf" | "infinity" => some (Float.ofBits 0x7FF0000000000000)
    | "nan" => some (Float.ofBits 0x7FF8000000000000)
    | _ => readMagnitude? rest
  magnitude?.map fun x => if minus then -x else x

end SchemaDecls.Numeral
