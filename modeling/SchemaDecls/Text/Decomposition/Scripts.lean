/-!
# Decompositions: other alphabets

Greek, Cyrillic, the Semitic scripts and the scripts of South and South-East Asia. The
table gives the full compatibility decomposition of 504 characters, as of Unicode
14.0.0: each row starts at a code point and lists the forms of consecutive code points.
-/

namespace SchemaDecls.Text.Decomposition

/-- Decompositions from U+0340 to U+1FB4. -/
def scriptsFrom0340 : List (Nat × Array String) := [
  (0x340, #["\u0300", "\u0301"]),
  (0x343, #["\u0313", "\u0308\u0301"]),
  (0x374, #["ʹ"]),
  (0x37A, #[" \u0345"]),
  (0x37E, #[";"]),
  (0x384, #[" \u0301", " \u0308\u0301", "Α\u0301", "·", "Ε\u0301", "Η\u0301", "Ι\u0301"]),
  (0x38C, #["Ο\u0301"]),
  (0x38E, #["Υ\u0301", "Ω\u0301", "ι\u0308\u0301"]),
  (0x3AA, #["Ι\u0308", "Υ\u0308", "α\u0301", "ε\u0301", "η\u0301", "ι\u0301", "υ\u0308\u0301"]),
  (0x3CA, #["ι\u0308", "υ\u0308", "ο\u0301", "υ\u0301", "ω\u0301"]),
  (0x3D0, #["β", "θ", "Υ", "Υ\u0301", "Υ\u0308", "φ", "π"]),
  (0x3F0, #["κ", "ρ", "ς"]),
  (0x3F4, #["Θ", "ε"]),
  (0x3F9, #["Σ"]),
  (0x400, #["Е\u0300", "Е\u0308"]),
  (0x403, #["Г\u0301"]),
  (0x407, #["І\u0308"]),
  (0x40C, #["К\u0301", "И\u0300", "У\u0306"]),
  (0x419, #["И\u0306"]),
  (0x439, #["и\u0306"]),
  (0x450, #["е\u0300", "е\u0308"]),
  (0x453, #["г\u0301"]),
  (0x457, #["і\u0308"]),
  (0x45C, #["к\u0301", "и\u0300", "у\u0306"]),
  (0x476, #["Ѵ\u030f", "ѵ\u030f"]),
  (0x4C1, #["Ж\u0306", "ж\u0306"]),
  (0x4D0, #["А\u0306", "а\u0306", "А\u0308", "а\u0308"]),
  (0x4D6, #["Е\u0306", "е\u0306"]),
  (0x4DA, #["Ә\u0308", "ә\u0308", "Ж\u0308", "ж\u0308", "З\u0308", "з\u0308"]),
  (0x4E2, #["И\u0304", "и\u0304", "И\u0308", "и\u0308", "О\u0308", "о\u0308"]),
  (0x4EA, #["Ө\u0308", "ө\u0308", "Э\u0308", "э\u0308", "У\u0304", "у\u0304", "У\u0308",
    "у\u0308", "У\u030b", "у\u030b", "Ч\u0308", "ч\u0308"]),
  (0x4F8, #["Ы\u0308", "ы\u0308"]),
  (0x587, #["եւ"]),
  (0x622, #["\u0627\u0653", "\u0627\u0654", "\u0648\u0654", "\u0627\u0655", "\u064a\u0654"]),
  (0x675, #["\u0627\u0674", "\u0648\u0674", "\u06c7\u0674", "\u064a\u0674"]),
  (0x6C0, #["\u06d5\u0654"]),
  (0x6C2, #["\u06c1\u0654"]),
  (0x6D3, #["\u06d2\u0654"]),
  (0x929, #["न\u093c"]),
  (0x931, #["र\u093c"]),
  (0x934, #["ळ\u093c"]),
  (0x958, #["क\u093c", "ख\u093c", "ग\u093c", "ज\u093c", "ड\u093c", "ढ\u093c", "फ\u093c",
    "य\u093c"]),
  (0x9CB, #["\u09c7\u09be", "\u09c7\u09d7"]),
  (0x9DC, #["ড\u09bc", "ঢ\u09bc"]),
  (0x9DF, #["য\u09bc"]),
  (0xA33, #["ਲ\u0a3c"]),
  (0xA36, #["ਸ\u0a3c"]),
  (0xA59, #["ਖ\u0a3c", "ਗ\u0a3c", "ਜ\u0a3c"]),
  (0xA5E, #["ਫ\u0a3c"]),
  (0xB48, #["\u0b47\u0b56"]),
  (0xB4B, #["\u0b47\u0b3e", "\u0b47\u0b57"]),
  (0xB5C, #["ଡ\u0b3c", "ଢ\u0b3c"]),
  (0xB94, #["ஒ\u0bd7"]),
  (0xBCA, #["\u0bc6\u0bbe", "\u0bc7\u0bbe", "\u0bc6\u0bd7"]),
  (0xC48, #["\u0c46\u0c56"]),
  (0xCC0, #["\u0cbf\u0cd5"]),
  (0xCC7, #["\u0cc6\u0cd5", "\u0cc6\u0cd6"]),
  (0xCCA, #["\u0cc6\u0cc2", "\u0cc6\u0cc2\u0cd5"]),
  (0xD4A, #["\u0d46\u0d3e", "\u0d47\u0d3e", "\u0d46\u0d57"]),
  (0xDDA, #["\u0dd9\u0dca"]),
  (0xDDC, #["\u0dd9\u0dcf", "\u0dd9\u0dcf\u0dca", "\u0dd9\u0ddf"]),
  (0xE33, #["\u0e4dา"]),
  (0xEB3, #["\u0ecdາ"]),
  (0xEDC, #["ຫນ", "ຫມ"]),
  (0xF0C, #["་"]),
  (0xF43, #["ག\u0fb7"]),
  (0xF4D, #["ཌ\u0fb7"]),
  (0xF52, #["ད\u0fb7"]),
  (0xF57, #["བ\u0fb7"]),
  (0xF5C, #["ཛ\u0fb7"]),
  (0xF69, #["ཀ\u0fb5"]),
  (0xF73, #["\u0f71\u0f72"]),
  (0xF75, #["\u0f71\u0f74", "\u0fb2\u0f80", "\u0fb2\u0f71\u0f80", "\u0fb3\u0f80",
    "\u0fb3\u0f71\u0f80"]),
  (0xF81, #["\u0f71\u0f80"]),
  (0xF93, #["\u0f92\u0fb7"]),
  (0xF9D, #["\u0f9c\u0fb7"]),
  (0xFA2, #["\u0fa1\u0fb7"]),
  (0xFA7, #["\u0fa6\u0fb7"]),
  (0xFAC, #["\u0fab\u0fb7"]),
  (0xFB9, #["\u0f90\u0fb5"]),
  (0x1026, #["ဥ\u102e"]),
  (0x10FC, #["ნ"]),
  (0x1B06, #["ᬅ\u1b35"]),
  (0x1B08, #["ᬇ\u1b35"]),
  (0x1B0A, #["ᬉ\u1b35"]),
  (0x1B0C, #["ᬋ\u1b35"]),
  (0x1B0E, #["ᬍ\u1b35"]),
  (0x1B12, #["ᬑ\u1b35"]),
  (0x1B3B, #["\u1b3a\u1b35"]),
  (0x1B3D, #["\u1b3c\u1b35"]),
  (0x1B40, #["\u1b3e\u1b35", "\u1b3f\u1b35"]),
  (0x1B43, #["\u1b42\u1b35"]),
  (0x1F00, #["α\u0313", "α\u0314", "α\u0313\u0300", "α\u0314\u0300", "α\u0313\u0301",
    "α\u0314\u0301", "α\u0313\u0342", "α\u0314\u0342", "Α\u0313", "Α\u0314", "Α\u0313\u0300",
    "Α\u0314\u0300", "Α\u0313\u0301", "Α\u0314\u0301", "Α\u0313\u0342", "Α\u0314\u0342",
    "ε\u0313", "ε\u0314", "ε\u0313\u0300", "ε\u0314\u0300", "ε\u0313\u0301", "ε\u0314\u0301"]),
  (0x1F18, #["Ε\u0313", "Ε\u0314", "Ε\u0313\u0300", "Ε\u0314\u0300", "Ε\u0313\u0301",
    "Ε\u0314\u0301"]),
  (0x1F20, #["η\u0313", "η\u0314", "η\u0313\u0300", "η\u0314\u0300", "η\u0313\u0301",
    "η\u0314\u0301", "η\u0313\u0342", "η\u0314\u0342", "Η\u0313", "Η\u0314", "Η\u0313\u0300",
    "Η\u0314\u0300", "Η\u0313\u0301", "Η\u0314\u0301", "Η\u0313\u0342", "Η\u0314\u0342",
    "ι\u0313", "ι\u0314", "ι\u0313\u0300", "ι\u0314\u0300", "ι\u0313\u0301", "ι\u0314\u0301",
    "ι\u0313\u0342", "ι\u0314\u0342", "Ι\u0313", "Ι\u0314", "Ι\u0313\u0300", "Ι\u0314\u0300",
    "Ι\u0313\u0301", "Ι\u0314\u0301", "Ι\u0313\u0342", "Ι\u0314\u0342", "ο\u0313", "ο\u0314",
    "ο\u0313\u0300", "ο\u0314\u0300", "ο\u0313\u0301", "ο\u0314\u0301"]),
  (0x1F48, #["Ο\u0313", "Ο\u0314", "Ο\u0313\u0300", "Ο\u0314\u0300", "Ο\u0313\u0301",
    "Ο\u0314\u0301"]),
  (0x1F50, #["υ\u0313", "υ\u0314", "υ\u0313\u0300", "υ\u0314\u0300", "υ\u0313\u0301",
    "υ\u0314\u0301", "υ\u0313\u0342", "υ\u0314\u0342"]),
  (0x1F59, #["Υ\u0314"]),
  (0x1F5B, #["Υ\u0314\u0300"]),
  (0x1F5D, #["Υ\u0314\u0301"]),
  (0x1F5F, #["Υ\u0314\u0342", "ω\u0313", "ω\u0314", "ω\u0313\u0300", "ω\u0314\u0300",
    "ω\u0313\u0301", "ω\u0314\u0301", "ω\u0313\u0342", "ω\u0314\u0342", "Ω\u0313", "Ω\u0314",
    "Ω\u0313\u0300", "Ω\u0314\u0300", "Ω\u0313\u0301", "Ω\u0314\u0301", "Ω\u0313\u0342",
    "Ω\u0314\u0342", "α\u0300", "α\u0301", "ε\u0300", "ε\u0301", "η\u0300", "η\u0301", "ι\u0300",
    "ι\u0301", "ο\u0300", "ο\u0301", "υ\u0300", "υ\u0301", "ω\u0300", "ω\u0301"]),
  (0x1F80, #["α\u0313\u0345", "α\u0314\u0345", "α\u0313\u0300\u0345", "α\u0314\u0300\u0345",
    "α\u0313\u0301\u0345", "α\u0314\u0301\u0345", "α\u0313\u0342\u0345", "α\u0314\u0342\u0345",
    "Α\u0313\u0345", "Α\u0314\u0345", "Α\u0313\u0300\u0345", "Α\u0314\u0300\u0345",
    "Α\u0313\u0301\u0345", "Α\u0314\u0301\u0345", "Α\u0313\u0342\u0345", "Α\u0314\u0342\u0345",
    "η\u0313\u0345", "η\u0314\u0345", "η\u0313\u0300\u0345", "η\u0314\u0300\u0345",
    "η\u0313\u0301\u0345", "η\u0314\u0301\u0345", "η\u0313\u0342\u0345", "η\u0314\u0342\u0345",
    "Η\u0313\u0345", "Η\u0314\u0345", "Η\u0313\u0300\u0345", "Η\u0314\u0300\u0345",
    "Η\u0313\u0301\u0345", "Η\u0314\u0301\u0345", "Η\u0313\u0342\u0345", "Η\u0314\u0342\u0345",
    "ω\u0313\u0345", "ω\u0314\u0345", "ω\u0313\u0300\u0345", "ω\u0314\u0300\u0345",
    "ω\u0313\u0301\u0345", "ω\u0314\u0301\u0345", "ω\u0313\u0342\u0345", "ω\u0314\u0342\u0345",
    "Ω\u0313\u0345", "Ω\u0314\u0345", "Ω\u0313\u0300\u0345", "Ω\u0314\u0300\u0345",
    "Ω\u0313\u0301\u0345", "Ω\u0314\u0301\u0345", "Ω\u0313\u0342\u0345", "Ω\u0314\u0342\u0345",
    "α\u0306", "α\u0304", "α\u0300\u0345", "α\u0345", "α\u0301\u0345"])]

/-- Decompositions from U+1FB6 to U+11938. -/
def scriptsFrom1FB6 : List (Nat × Array String) := [
  (0x1FB6, #["α\u0342", "α\u0342\u0345", "Α\u0306", "Α\u0304", "Α\u0300", "Α\u0301", "Α\u0345",
    " \u0313", "ι", " \u0313", " \u0342", " \u0308\u0342", "η\u0300\u0345", "η\u0345",
    "η\u0301\u0345"]),
  (0x1FC6, #["η\u0342", "η\u0342\u0345", "Ε\u0300", "Ε\u0301", "Η\u0300", "Η\u0301", "Η\u0345",
    " \u0313\u0300", " \u0313\u0301", " \u0313\u0342", "ι\u0306", "ι\u0304", "ι\u0308\u0300",
    "ι\u0308\u0301"]),
  (0x1FD6, #["ι\u0342", "ι\u0308\u0342", "Ι\u0306", "Ι\u0304", "Ι\u0300", "Ι\u0301"]),
  (0x1FDD, #[" \u0314\u0300", " \u0314\u0301", " \u0314\u0342", "υ\u0306", "υ\u0304",
    "υ\u0308\u0300", "υ\u0308\u0301", "ρ\u0313", "ρ\u0314", "υ\u0342", "υ\u0308\u0342", "Υ\u0306",
    "Υ\u0304", "Υ\u0300", "Υ\u0301", "Ρ\u0314", " \u0308\u0300", " \u0308\u0301", "\x60"]),
  (0x1FF2, #["ω\u0300\u0345", "ω\u0345", "ω\u0301\u0345"]),
  (0x1FF6, #["ω\u0342", "ω\u0342\u0345", "Ο\u0300", "Ο\u0301", "Ω\u0300", "Ω\u0301", "Ω\u0345",
    " \u0301", " \u0314"]),
  (0xA69C, #["ъ", "ь"]),
  (0xA770, #["ꝯ"]),
  (0xA7F2, #["C", "F", "Q"]),
  (0xA7F8, #["Ħ", "œ"]),
  (0xAB5C, #["ꜧ", "ꬷ", "ɫ", "ꭒ"]),
  (0xAB69, #["ʍ"]),
  (0x10781, #["ː", "ˑ", "æ", "ʙ", "ɓ"]),
  (0x10787, #["ʣ", "ꭦ", "ʥ", "ʤ", "ɖ", "ɗ", "ᶑ", "ɘ", "ɞ", "ʩ", "ɤ", "ɢ", "ɠ", "ʛ", "ħ", "ʜ", "ɧ",
    "ʄ", "ʪ", "ʫ", "ɬ", "𝼄", "ꞎ", "ɮ", "𝼅", "ʎ", "𝼆", "ø", "ɶ", "ɷ", "q", "ɺ", "𝼈", "ɽ", "ɾ", "ʀ",
    "ʨ", "ʦ", "ꭧ", "ʧ", "ʈ", "ⱱ"]),
  (0x107B2, #["ʏ", "ʡ", "ʢ", "ʘ", "ǀ", "ǁ", "ǂ", "𝼊", "𝼞"]),
  (0x1109A, #["𑂚"]),
  (0x1109C, #["𑂜"]),
  (0x110AB, #["𑂫"]),
  (0x1112E, #["𑄮", "𑄯"]),
  (0x1134B, #["𑍋", "𑍌"]),
  (0x114BB, #["𑒻", "𑒼"]),
  (0x114BE, #["𑒾"]),
  (0x115BA, #["𑖺", "𑖻"]),
  (0x11938, #["𑤸"])]

/-- All rows of this table, in ascending order. -/
def scripts : List (Nat × Array String) :=
  scriptsFrom0340 ++ scriptsFrom1FB6

end SchemaDecls.Text.Decomposition
