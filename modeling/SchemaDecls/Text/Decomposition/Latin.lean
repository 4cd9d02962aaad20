/-!
# Decompositions: Latin letters

Latin letters with accents, their ligatures and the phonetic modifier letters. The table
gives the full compatibility decomposition of 648 characters, as of Unicode 14.0.0: each
row starts at a code point and lists the forms of consecutive code points.
-/

namespace SchemaDecls.Text.Decomposition

/-- Decompositions from U+00A0 to U+1D4D. -/
def latinFrom00A0 : List (Nat × Array String) := [
  (0xA0, #[" "]),
  (0xA8, #[" \u0308"]),
  (0xAA, #["a"]),
  (0xAF, #[" \u0304"]),
  (0xB2, #["2", "3", " \u0301", "μ"]),
  (0xB8, #[" \u0327", "1", "o"]),
  (0xBC, #["1⁄4", "1⁄2", "3⁄4"]),
  (0xC0, #["A\u0300", "A\u0301", "A\u0302", "A\u0303", "A\u0308", "A\u030a"]),
  (0xC7, #["C\u0327", "E\u0300", "E\u0301", "E\u0302", "E\u0308", "I\u0300", "I\u0301", "I\u0302",
    "I\u0308"]),
  (0xD1, #["N\u0303", "O\u0300", "O\u0301", "O\u0302", "O\u0303", "O\u0308"]),
  (0xD9, #["U\u0300", "U\u0301", "U\u0302", "U\u0308", "Y\u0301"]),
  (0xE0, #["a\u0300", "a\u0301", "a\u0302", "a\u0303", "a\u0308", "a\u030a"]),
  (0xE7, #["c\u0327", "e\u0300", "e\u0301", "e\u0302", "e\u0308", "i\u0300", "i\u0301", "i\u0302",
    "i\u0308"]),
  (0xF1, #["n\u0303", "o\u0300", "o\u0301", "o\u0302", "o\u0303", "o\u0308"]),
  (0xF9, #["u\u0300", "u\u0301", "u\u0302", "u\u0308", "y\u0301"]),
  (0xFF, #["y\u0308", "A\u0304", "a\u0304", "A\u0306", "a\u0306", "A\u0328", "a\u0328", "C\u0301",
    "c\u0301", "C\u0302", "c\u0302", "C\u0307", "c\u0307", "C\u030c", "c\u030c", "D\u030c",
    "d\u030c"]),
  (0x112, #["E\u0304", "e\u0304", "E\u0306", "e\u0306", "E\u0307", "e\u0307", "E\u0328",
    "e\u0328", "E\u030c", "e\u030c", "G\u0302", "g\u0302", "G\u0306", "g\u0306", "G\u0307",
    "g\u0307", "G\u0327", "g\u0327", "H\u0302", "h\u0302"]),
  (0x128, #["I\u0303", "i\u0303", "I\u0304", "i\u0304", "I\u0306", "i\u0306", "I\u0328",
    "i\u0328", "I\u0307"]),
  (0x132, #["IJ", "ij", "J\u0302", "j\u0302", "K\u0327", "k\u0327"]),
  (0x139, #["L\u0301", "l\u0301", "L\u0327", "l\u0327", "L\u030c", "l\u030c", "L·", "l·"]),
  (0x143, #["N\u0301", "n\u0301", "N\u0327", "n\u0327", "N\u030c", "n\u030c", "ʼn"]),
  (0x14C, #["O\u0304", "o\u0304", "O\u0306", "o\u0306", "O\u030b", "o\u030b"]),
  (0x154, #["R\u0301", "r\u0301", "R\u0327", "r\u0327", "R\u030c", "r\u030c", "S\u0301",
    "s\u0301", "S\u0302", "s\u0302", "S\u0327", "s\u0327", "S\u030c", "s\u030c", "T\u0327",
    "t\u0327", "T\u030c", "t\u030c"]),
  (0x168, #["U\u0303", "u\u0303", "U\u0304", "u\u0304", "U\u0306", "u\u0306", "U\u030a",
    "u\u030a", "U\u030b", "u\u030b", "U\u0328", "u\u0328", "W\u0302", "w\u0302", "Y\u0302",
    "y\u0302", "Y\u0308", "Z\u0301", "z\u0301", "Z\u0307", "z\u0307", "Z\u030c", "z\u030c", "s"]),
  (0x1A0, #["O\u031b", "o\u031b"]),
  (0x1AF, #["U\u031b", "u\u031b"]),
  (0x1C4, #["DZ\u030c", "Dz\u030c", "dz\u030c", "LJ", "Lj", "lj", "NJ", "Nj", "nj", "A\u030c",
    "a\u030c", "I\u030c", "i\u030c", "O\u030c", "o\u030c", "U\u030c", "u\u030c", "U\u0308\u0304",
    "u\u0308\u0304", "U\u0308\u0301", "u\u0308\u0301", "U\u0308\u030c", "u\u0308\u030c",
    "U\u0308\u0300", "u\u0308\u0300"]),
  (0x1DE, #["A\u0308\u0304", "a\u0308\u0304", "A\u0307\u0304", "a\u0307\u0304", "Æ\u0304",
    "æ\u0304"]),
  (0x1E6, #["G\u030c", "g\u030c", "K\u030c", "k\u030c", "O\u0328", "o\u0328", "O\u0328\u0304",
    "o\u0328\u0304", "Ʒ\u030c", "ʒ\u030c", "j\u030c", "DZ", "Dz", "dz", "G\u0301", "g\u0301"]),
  (0x1F8, #["N\u0300", "n\u0300", "A\u030a\u0301", "a\u030a\u0301", "Æ\u0301", "æ\u0301",
    "Ø\u0301", "ø\u0301", "A\u030f", "a\u030f", "A\u0311", "a\u0311", "E\u030f", "e\u030f",
    "E\u0311", "e\u0311", "I\u030f", "i\u030f", "I\u0311", "i\u0311", "O\u030f", "o\u030f",
    "O\u0311", "o\u0311", "R\u030f", "r\u030f", "R\u0311", "r\u0311", "U\u030f", "u\u030f",
    "U\u0311", "u\u0311", "S\u0326", "s\u0326", "T\u0326", "t\u0326"]),
  (0x21E, #["H\u030c", "h\u030c"]),
  (0x226, #["A\u0307", "a\u0307", "E\u0327", "e\u0327", "O\u0308\u0304", "o\u0308\u0304",
    "O\u0303\u0304", "o\u0303\u0304", "O\u0307", "o\u0307", "O\u0307\u0304", "o\u0307\u0304",
    "Y\u0304", "y\u0304"]),
  (0x2B0, #["h", "ɦ", "j", "r", "ɹ", "ɻ", "ʁ", "w", "y"]),
  (0x2D8, #[" \u0306", " \u0307", " \u030a", " \u0328", " \u0303", " \u030b"]),
  (0x2E0, #["ɣ", "l", "s", "x", "ʕ"]),
  (0x1D2C, #["A", "Æ", "B"]),
  (0x1D30, #["D", "E", "Ǝ", "G", "H", "I", "J", "K", "L", "M", "N"]),
  (0x1D3C, #["O", "Ȣ", "P", "R", "T", "U", "W", "a", "ɐ", "ɑ", "ᴂ", "b", "d", "e", "ə", "ɛ", "ɜ",
    "g"])]

/-- Decompositions from U+1D4F to U+1EF9. -/
def latinFrom1D4F : List (Nat × Array String) := [
  (0x1D4F, #["k", "m", "ŋ", "o", "ɔ", "ᴖ", "ᴗ", "p", "t", "u", "ᴝ", "ɯ", "v", "ᴥ", "β", "γ", "δ",
    "φ", "χ", "i", "r", "u", "v", "β", "γ", "ρ", "φ", "χ"]),
  (0x1D78, #["н"]),
  (0x1D9B, #["ɒ", "c", "ɕ", "ð", "ɜ", "f", "ɟ", "ɡ", "ɥ", "ɨ", "ɩ", "ɪ", "ᵻ", "ʝ", "ɭ", "ᶅ", "ʟ",
    "ɱ", "ɰ", "ɲ", "ɳ", "ɴ", "ɵ", "ɸ", "ʂ", "ʃ", "ƫ", "ʉ", "ʊ", "ᴜ", "ʋ", "ʌ", "z", "ʐ", "ʑ", "ʒ",
    "θ"]),
  (0x1E00, #["A\u0325", "a\u0325", "B\u0307", "b\u0307", "B\u0323", "b\u0323", "B\u0331",
    "b\u0331", "C\u0327\u0301", "c\u0327\u0301", "D\u0307", "d\u0307", "D\u0323", "d\u0323",
    "D\u0331", "d\u0331", "D\u0327", "d\u0327", "D\u032d", "d\u032d", "E\u0304\u0300",
    "e\u0304\u0300", "E\u0304\u0301", "e\u0304\u0301", "E\u032d", "e\u032d", "E\u0330", "e\u0330",
    "E\u0327\u0306", "e\u0327\u0306", "F\u0307", "f\u0307", "G\u0304", "g\u0304", "H\u0307",
    "h\u0307", "H\u0323", "h\u0323", "H\u0308", "h\u0308", "H\u0327", "h\u0327", "H\u032e",
    "h\u032e", "I\u0330", "i\u0330", "I\u0308\u0301", "i\u0308\u0301", "K\u0301", "k\u0301",
    "K\u0323", "k\u0323", "K\u0331", "k\u0331", "L\u0323", "l\u0323", "L\u0323\u0304",
    "l\u0323\u0304", "L\u0331", "l\u0331", "L\u032d", "l\u032d", "M\u0301", "m\u0301"]),
  (0x1E40, #["M\u0307", "m\u0307", "M\u0323", "m\u0323", "N\u0307", "n\u0307", "N\u0323",
    "n\u0323", "N\u0331", "n\u0331", "N\u032d", "n\u032d", "O\u0303\u0301", "o\u0303\u0301",
    "O\u0303\u0308", "o\u0303\u0308", "O\u0304\u0300", "o\u0304\u0300", "O\u0304\u0301",
    "o\u0304\u0301", "P\u0301", "p\u0301", "P\u0307", "p\u0307", "R\u0307", "r\u0307", "R\u0323",
    "r\u0323", "R\u0323\u0304", "r\u0323\u0304", "R\u0331", "r\u0331", "S\u0307", "s\u0307",
    "S\u0323", "s\u0323", "S\u0301\u0307", "s\u0301\u0307", "S\u030c\u0307", "s\u030c\u0307",
    "S\u0323\u0307", "s\u0323\u0307", "T\u0307", "t\u0307", "T\u0323", "t\u0323", "T\u0331",
    "t\u0331", "T\u032d", "t\u032d", "U\u0324", "u\u0324", "U\u0330", "u\u0330", "U\u032d",
    "u\u032d", "U\u0303\u0301", "u\u0303\u0301", "U\u0304\u0308", "u\u0304\u0308", "V\u0303",
    "v\u0303", "V\u0323", "v\u0323"]),
  (0x1E80, #["W\u0300", "w\u0300", "W\u0301", "w\u0301", "W\u0308", "w\u0308", "W\u0307",
    "w\u0307", "W\u0323", "w\u0323", "X\u0307", "x\u0307", "X\u0308", "x\u0308", "Y\u0307",
    "y\u0307", "Z\u0302", "z\u0302", "Z\u0323", "z\u0323", "Z\u0331", "z\u0331", "h\u0331",
    "t\u0308", "w\u030a", "y\u030a", "aʾ", "s\u0307"]),
  (0x1EA0, #["A\u0323", "a\u0323", "A\u0309", "a\u0309", "A\u0302\u0301", "a\u0302\u0301",
    "A\u0302\u0300", "a\u0302\u0300", "A\u0302\u0309", "a\u0302\u0309", "A\u0302\u0303",
    "a\u0302\u0303", "A\u0323\u0302", "a\u0323\u0302", "A\u0306\u0301", "a\u0306\u0301",
    "A\u0306\u0300", "a\u0306\u0300", "A\u0306\u0309", "a\u0306\u0309", "A\u0306\u0303",
    "a\u0306\u0303", "A\u0323\u0306", "a\u0323\u0306", "E\u0323", "e\u0323", "E\u0309", "e\u0309",
    "E\u0303", "e\u0303", "E\u0302\u0301", "e\u0302\u0301", "E\u0302\u0300", "e\u0302\u0300",
    "E\u0302\u0309", "e\u0302\u0309", "E\u0302\u0303", "e\u0302\u0303", "E\u0323\u0302",
    "e\u0323\u0302", "I\u0309", "i\u0309", "I\u0323", "i\u0323", "O\u0323", "o\u0323", "O\u0309",
    "o\u0309", "O\u0302\u0301", "o\u0302\u0301", "O\u0302\u0300", "o\u0302\u0300",
    "O\u0302\u0309", "o\u0302\u0309", "O\u0302\u0303", "o\u0302\u0303", "O\u0323\u0302",
    "o\u0323\u0302", "O\u031b\u0301", "o\u031b\u0301", "O\u031b\u0300", "o\u031b\u0300",
    "O\u031b\u0309", "o\u031b\u0309"]),
  (0x1EE0, #["O\u031b\u0303", "o\u031b\u0303", "O\u031b\u0323", "o\u031b\u0323", "U\u0323",
    "u\u0323", "U\u0309", "u\u0309", "U\u031b\u0301", "u\u031b\u0301", "U\u031b\u0300",
    "u\u031b\u0300", "U\u031b\u0309", "u\u031b\u0309", "U\u031b\u0303", "u\u031b\u0303",
    "U\u031b\u0323", "u\u031b\u0323", "Y\u0300", "y\u0300", "Y\u0323", "y\u0323", "Y\u0309",
    "y\u0309", "Y\u0303", "y\u0303"])]

/-- All rows of this table, in ascending order. -/
def latin : List (Nat × Array String) :=
  latinFrom00A0 ++ latinFrom1D4F

end SchemaDecls.Text.Decomposition
