import SchemaDecls.Dictionary

/-!
# Data values

The values that literals, options and misplaced children are made of: JSON data in which integers of
any size are told apart from floating-point numbers and objects keep the order of their entries.
-/

namespace SchemaDecls

/-- A data value. -/
inductive Value where
  | null
  | bool (b : Bool)
  | int (n : Int)
  | float (x : Float)
  | str (s : String)
  | list (items : List Value)
  | dict (entries : List (String × Value))
deriving Inhabited

namespace Value

/-- The ordered dictionary that results from writing the pairs one after another. -/
def ofPairs (pairs : List (String × Value)) : Value := .dict (Dictionary.ofPairs pairs)

/--
Whether the value counts as true where a yes or no is asked for.

`null`, `false`, zero and everything empty count as false. A zero may have either sign; the value
that is no number counts as true.
-/
def truthy : Value → Bool
  | .null => false
  | .bool b => b
  | .int n => n != 0
  | .float x => x != 0.0
  | .str s => s != ""
  | .list items => !items.isEmpty
  | .dict entries => !entries.isEmpty

/-- The name of a value's type in messages. -/
def typeName : Value → String
  | .null => "NoneType"
  | .bool _ => "bool"
  | .int _ => "int"
  | .float _ => "float"
  | .str _ => "str"
  | .list _ => "list"
  | .dict _ => "dict"

end Value

end SchemaDecls
