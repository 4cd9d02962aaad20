import SchemaDecls.Text.Quoted

/-!
# Property keys

A key of an interface is written bare if it is an ASCII identifier or the key of an index signature,
and as quoted text otherwise. A key that is missing is written `null`.
-/

namespace SchemaDecls.PropertyKey

/-- The key of an index signature. -/
def indexSignature : String := "[k: string]"

/-- An identifier: ASCII letters, digits, underscores and dollar signs, and no digit first. -/
def isIdentifier : List Char → Bool
  | [] => false
  | c :: rest =>
      (c.isAlpha || c == '_' || c == '$') && rest.all fun d => d.isAlphanum || d == '_' || d == '$'

/-- How a key is written. -/
def render : Option String → String
  | none => "null"
  | some key =>
      if isIdentifier key.toList || key == indexSignature then key
      else String.ofList (Text.quoted key.toList)

example : render (some "a_1") = "a_1" := by decide +kernel

example : render (some "1a") = "\"1a\"" := by decide +kernel

end SchemaDecls.PropertyKey
