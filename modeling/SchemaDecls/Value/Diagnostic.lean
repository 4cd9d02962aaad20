import SchemaDecls.Numeral.Notation
import SchemaDecls.Text.Hex
import SchemaDecls.Text.Printable
import SchemaDecls.Value.Basic

/-!
# Values in messages

Messages show a value in a notation of their own: strings in single quotes, a space behind commas
and colons, and every character that cannot be printed as an escape. A string that holds a single
quote and no double quote is put in double quotes instead, so that it needs no escape for either.
As in literals, an integer is written out, however many digits it has.
-/

namespace SchemaDecls.Value

/-- How messages name the values that are no numbers. -/
def diagnosticSpecials : Numeral.Specials := ⟨"nan", "inf"⟩

/-- The escape of a code point, with as many digits as it needs of two, four or eight. -/
def codeEscape (code : Nat) : List Char :=
  if code < 0x100 then '\\' :: 'x' :: Text.hexDigits 2 code
  else if code < 0x10000 then '\\' :: 'u' :: Text.hexDigits 4 code
  else '\\' :: 'U' :: Text.hexDigits 8 code

/-- How messages write a character of a string in the given quotes. -/
def diagnosticChar (quote c : Char) : List Char :=
  if c = quote || c = '\\' then ['\\', c]
  else if c = '\n' then ['\\', 'n']
  else if c = '\r' then ['\\', 'r']
  else if c = '\t' then ['\\', 't']
  else if Text.isPrintable c then [c]
  else codeEscape c.toNat

/-- How messages write a string. -/
def diagnosticString (s : List Char) : List Char :=
  let quote := if '\'' ∈ s ∧ '"' ∉ s then '"' else '\''
  quote :: (s.flatMap (diagnosticChar quote) ++ [quote])

/-- The texts one behind the other, with a comma and a space between them. -/
def spacedCommas (texts : List (List Char)) : List Char := List.intercalate [',', ' '] texts

mutual

/-- How messages write a value. -/
def diagnosticText : Value → List Char
  | .null => "None".toList
  | .bool true => "True".toList
  | .bool false => "False".toList
  | .int n => Numeral.integer n
  | .float x => (Numeral.render diagnosticSpecials x).toList
  | .str s => diagnosticString s.toList
  | .list items => '[' :: (spacedCommas (diagnosticTexts items) ++ [']'])
  | .dict entries => '\x7b' :: (spacedCommas (diagnosticEntries entries) ++ ['\x7d'])

/-- How messages write the items of a list. -/
def diagnosticTexts : List Value → List (List Char)
  | [] => []
  | v :: rest => diagnosticText v :: diagnosticTexts rest

/-- How messages write the entries of a dictionary. -/
def diagnosticEntries : List (String × Value) → List (List Char)
  | [] => []
  | (k, v) :: rest =>
      (diagnosticString k.toList ++ ':' :: ' ' :: diagnosticText v) :: diagnosticEntries rest

end

/-- The text of a value in a message. -/
def diagnostic (v : Value) : String := String.ofList v.diagnosticText

example : (Value.list [.str "it's", .null]).diagnostic = "[\"it's\", None]" := by decide +kernel

example : (Value.dict [("k", .int (-1))]).diagnostic = "\x7b'k': -1\x7d" := by decide +kernel

end SchemaDecls.Value
