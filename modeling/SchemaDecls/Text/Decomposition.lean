import SchemaDecls.Text.Decomposition.Latin
import SchemaDecls.Text.Decomposition.Scripts
import SchemaDecls.Text.Decomposition.Symbols
import SchemaDecls.Text.Decomposition.EastAsian
import SchemaDecls.Text.Decomposition.Ideographs
import SchemaDecls.Text.Decomposition.Presentation
import SchemaDecls.Text.Decomposition.Mathematical

/-!
# Compatibility decomposition

`decompose c` is the full compatibility decomposition of one character, as of Unicode 14.0.0: the
form that is left when accents are split off, ligatures are taken apart and styled or enclosed
letters are replaced by plain ones, as often as that is possible.

Hangul syllables are decomposed by arithmetic, all other characters by table. Below U+00A0 nothing
decomposes, which the definition settles before it looks at the table.
-/

namespace SchemaDecls.Text

namespace Decomposition

/-- All rows of the tables: a first code point and the forms of the code points from there on. -/
def rows : List (Nat × Array String) :=
  latin ++ scripts ++ symbols ++ eastAsian ++ ideographs ++ presentation ++ mathematical

/-- The form that the tables give for a code point. -/
def form? (code : Nat) : Option String :=
  rows.findSome? fun row => if row.1 ≤ code then row.2[code - row.1]? else none

/-- The code point is a precomposed Hangul syllable. -/
def isSyllable (code : Nat) : Bool := 0xAC00 ≤ code && code ≤ 0xD7A3

/--
The jamo of a Hangul syllable. Syllables are numbered by leading consonant, vowel and trailing
consonant, with 21 vowels and 28 trailing positions of which the first is empty.
-/
def jamo (code : Nat) : List Char :=
  let index := code - 0xAC00
  let lead := Char.ofNat (0x1100 + index / 588)
  let vowel := Char.ofNat (0x1161 + index % 588 / 28)
  if index % 28 = 0 then [lead, vowel]
  else [lead, vowel, Char.ofNat (0x11A7 + index % 28)]

end Decomposition

open Decomposition in
/-- The full compatibility decomposition of a character. -/
def decompose (c : Char) : List Char :=
  if c.toNat < 0xA0 then [c]
  else if isSyllable c.toNat then jamo c.toNat
  else
    match form? c.toNat with
    | some form => form.toList
    | none => [c]

theorem decompose_of_lt {c : Char} (h : c.toNat < 0xA0) : decompose c = [c] := by
  simp [decompose, h]

example : decompose 'é' = ['e', '\u0301'] := by decide +kernel

example : decompose '각' = ['\u1100', '\u1161', '\u11a8'] := by decide +kernel

end SchemaDecls.Text
