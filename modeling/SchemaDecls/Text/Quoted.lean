import SchemaDecls.Text.Hex

/-!
# Quoted text

A text between double quotes, as JSON writes it. Escaped are the quote, the backslash and the
characters below U+0020, the usual five of those by a letter and the others by four hexadecimal
digits. Every other character stands for itself.
-/

namespace SchemaDecls.Text

/-- How a character is written between double quotes. -/
def quotedChar (c : Char) : List Char :=
  if c = '"' then ['\\', '"']
  else if c = '\\' then ['\\', '\\']
  else if c = '\n' then ['\\', 'n']
  else if c = '\r' then ['\\', 'r']
  else if c = '\t' then ['\\', 't']
  else if c = '\x0c' then ['\\', 'f']
  else if c = '\x08' then ['\\', 'b']
  else if c.toNat < 0x20 then '\\' :: 'u' :: hexDigits 4 c.toNat
  else [c]

/-- The text between double quotes. -/
def quoted (s : List Char) : List Char := '"' :: (s.flatMap quotedChar ++ ['"'])

@[simp] theorem quoted_nil : quoted [] = ['"', '"'] := rfl

example : quoted ['a', '"', '\x01'] =
    ['"', 'a', '\\', '"', '\\', 'u', '0', '0', '0', '1', '"'] := by decide +kernel

end SchemaDecls.Text
