import SchemaDecls.Numeral.Notation
import SchemaDecls.Text.Quoted
import SchemaDecls.Value.Basic

/-!
# Literals

A constant is written as its JSON text, without a space anywhere outside of a string: commas between
items and entries, a colon behind each key, entries in their order. The values that are no numbers
have the names they have in a script.

Every value has a text. Limits that a runtime sets to the digits of an integer turned into text, or
to the depth of values within values, are left out.
-/

namespace SchemaDecls.Value

/-- How literals name the values that are no numbers. -/
def literalSpecials : Numeral.Specials := ⟨"NaN", "Infinity"⟩

/-- The texts one behind the other, with commas between them. -/
def commaSeparated (texts : List (List Char)) : List Char := List.intercalate [','] texts

mutual

/-- The JSON text of a value. An integer is written out, however many digits it has. -/
def literal : Value → List Char
  | .null => "null".toList
  | .bool true => "true".toList
  | .bool false => "false".toList
  | .int n => Numeral.integer n
  | .float x => (Numeral.render literalSpecials x).toList
  | .str s => Text.quoted s.toList
  | .list items => '[' :: (commaSeparated (literals items) ++ [']'])
  | .dict entries => '\x7b' :: (commaSeparated (literalEntries entries) ++ ['\x7d'])

/-- The JSON texts of a list of values. -/
def literals : List Value → List (List Char)
  | [] => []
  | v :: rest => literal v :: literals rest

/-- The JSON texts of the entries of a dictionary. -/
def literalEntries : List (String × Value) → List (List Char)
  | [] => []
  | (k, v) :: rest => (Text.quoted k.toList ++ ':' :: literal v) :: literalEntries rest

end

theorem literals_eq_map (items : List Value) : literals items = items.map literal := by
  induction items with
  | nil => rfl
  | cons v rest ih => simp [literals, ih]

theorem literalEntries_eq_map (entries : List (String × Value)) :
    literalEntries entries =
      entries.map fun entry => Text.quoted entry.1.toList ++ ':' :: literal entry.2 := by
  induction entries with
  | nil => rfl
  | cons entry rest ih => simp [literalEntries, ih]

end SchemaDecls.Value
