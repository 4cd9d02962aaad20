import SchemaDecls.Text.Blank
import SchemaDecls.Text.DecimalDigit
import SchemaDecls.Text.Plain

/-!
# Identifiers from names

A standalone name is arbitrary text; the identifier that is declared for it is the name in
PascalCase. The text is first made plain (`Text.plain`), so that accented letters count as letters.
Six steps follow, each a function on lists of characters that reads the text once from left to
right:

1. `blankUnsafe`: what cannot stand in an identifier becomes a space;
2. `raiseLeading`: a lower-case letter behind an underscore at the very start is raised;
3. `joinUnderscored`: any other underscore before a lower-case letter is dropped, the letter raised;
4. `raiseAfterDigit`: a letter directly behind a digit or a dollar sign is raised;
5. `joinWords`: spaces are dropped and the letter behind them is raised;
6. `capitalize`: the first letter is raised.

The order matters. Joining words last, for instance, lets the digit of `"a 1 b"` meet its letters
only after step 4 is over, and the letters are raised by step 5 instead.

Letters are the ASCII letters; digits are the decimal digits of all scripts.
-/

namespace SchemaDecls.Identifier

/-- The character may open an identifier: an ASCII letter, an underscore or a dollar sign. -/
def isStart (c : Char) : Bool := c.isAlpha || c == '_' || c == '$'

/-- The character may stand in an identifier. -/
def isPart (c : Char) : Bool := isStart c || Text.isDecimalDigit c

/-! ## The six steps -/

/-- Replaces every character that may not stand in an identifier by a space. -/
def blankParts (s : List Char) : List Char := s.map fun c => if isPart c then c else ' '

/--
Replaces what cannot stand in an identifier by spaces, the start of the text included.

Blanks at the start take the character behind them along if it cannot open an identifier, and so
does the empty run of blanks: `"9 lives"` and `"  9 lives"` both lose their digit, all of it in one
space.
-/
def blankUnsafe (s : List Char) : List Char :=
  match s.takeWhile Text.isBlank, s.dropWhile Text.isBlank with
  | [], [] => []
  | _ :: _, [] => [' ']
  | [], c :: rest => if isStart c then blankParts (c :: rest) else ' ' :: blankParts rest
  | _ :: _, c :: rest =>
      if isStart c then ' ' :: blankParts (c :: rest) else ' ' :: blankParts rest

/-- Raises a lower-case letter that follows an underscore at the start of the text. -/
def raiseLeading : List Char → List Char
  | '_' :: c :: rest => '_' :: (if c.isLower then c.toUpper else c) :: rest
  | s => s

/-- Drops each underscore before a lower-case letter and raises the letter. -/
def joinUnderscored : List Char → List Char
  | [] => []
  | [c] => [c]
  | c :: d :: rest =>
      if c = '_' ∧ d.isLower then d.toUpper :: joinUnderscored rest
      else c :: joinUnderscored (d :: rest)

/-- The letter behind this character is raised: it is a digit or a dollar sign. -/
def raisesNext (c : Char) : Bool := Text.isDecimalDigit c || c == '$'

/-- Raises each letter directly behind a digit or dollar sign; the flag: whether one came last. -/
def raiseAfterDigit (afterDigit : Bool) : List Char → List Char
  | [] => []
  | c :: rest => (if afterDigit then c.toUpper else c) :: raiseAfterDigit (raisesNext c) rest

/-- Drops the blanks and raises each letter behind them; the flag says whether a blank came last. -/
def joinWords (afterBlank : Bool) : List Char → List Char
  | [] => []
  | c :: rest =>
      if Text.isBlank c then joinWords true rest
      else (if afterBlank then c.toUpper else c) :: joinWords false rest

/-- Raises the first character. -/
def capitalize : List Char → List Char
  | [] => []
  | c :: rest => c.toUpper :: rest

/-! ## The identifier of a name -/

/-- The six steps in their order, on a text that is plain already. -/
def ofPlain (s : List Char) : List Char :=
  capitalize (joinWords false (raiseAfterDigit false (joinUnderscored (raiseLeading
    (blankUnsafe s)))))

/-- The identifier that stands for a name. It may be empty, and it may open with a digit. -/
def ofName (name : String) : String := String.ofList (ofPlain (Text.plain name.toList))

theorem toList_ofName (name : String) :
    (ofName name).toList = ofPlain (Text.plain name.toList) := by
  simp [ofName]

theorem ofName_empty : ofName "" = "" := rfl

example : ofName "my_type" = "MyType" := by decide +kernel

example : ofName "1st place" = "StPlace" := by decide +kernel

example : ofName "_private" = "_Private" := by decide +kernel

example : ofName "12a" = "2A" := by decide +kernel

end SchemaDecls.Identifier
