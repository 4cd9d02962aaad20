import SchemaDecls.Text.CodeRange

/-!
# Blanks

White space in the wide sense, as of Unicode 14.0.0: the characters with the White_Space property
and the four information separators U+001C to U+001F. Zero-width characters are not blank.
-/

namespace SchemaDecls.Text

/-- Code points of blanks, ascending and apart. -/
def blankRanges : List (Nat × Nat) := [
  (0x9, 0xD), (0x1C, 0x20), (0x85, 0x85), (0xA0, 0xA0), (0x1680, 0x1680), (0x2000, 0x200A),
  (0x2028, 0x2029), (0x202F, 0x202F), (0x205F, 0x205F), (0x3000, 0x3000)]

/-- The character is white space. -/
def isBlank (c : Char) : Bool := inRanges blankRanges c.toNat

example : isBlank '\u00a0' = true ∧ isBlank '\u200b' = false := by decide

end SchemaDecls.Text
