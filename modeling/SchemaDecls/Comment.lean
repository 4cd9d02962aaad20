/-!
# Comment blocks

A comment is written as a block with a line for each line of its text, empty ones included. The text
is not looked at beyond its line breaks.
-/

namespace SchemaDecls.Comment

/-- The lines of a text, without the line breaks between them. There is always at least one. -/
def lines (text : List Char) : List (List Char) := text.splitOn '\n'

/-- The lines with line breaks between them are the text again. -/
theorem intercalate_lines (text : List Char) : ['\n'].intercalate (lines text) = text :=
  List.intercalate_splitOn '\n'

/-- A line of the block. -/
def blockLine (line : List Char) : List Char := ' ' :: '*' :: ' ' :: (line ++ ['\n'])

/-- The block that holds a text. -/
def block (text : String) : String :=
  "/**\n" ++ String.ofList ((lines text.toList).flatMap blockLine) ++ " */"

example : block "one\n" = "/**\n * one\n * \n */" := by decide +kernel

end SchemaDecls.Comment
