/-!
# Decompositions: supplementary symbols

Styled mathematical letters and digits, musical symbols and the enclosed supplementary
forms. The table gives the full compatibility decomposition of 1296 characters, as of
Unicode 14.0.0: each row starts at a code point and lists the forms of consecutive code
points.
-/

namespace SchemaDecls.Text.Decomposition

/-- Decompositions from U+1D15E to U+1D550. -/
def mathematicalFrom1D15E : List (Nat × Array String) := [
  (0x1D15E, #["𝅗𝅥", "𝅘𝅥", "𝅘𝅥𝅮", "𝅘𝅥𝅯", "𝅘𝅥𝅰", "𝅘𝅥𝅱", "𝅘𝅥𝅲"]),
  (0x1D1BB, #["𝆹𝅥", "𝆺𝅥", "𝆹𝅥𝅮", "𝆺𝅥𝅮", "𝆹𝅥𝅯", "𝆺𝅥𝅯"]),
  (0x1D400, #["A", "B", "C", "D", "E", "F", "G", "H", "I", "J", "K", "L", "M", "N", "O", "P", "Q",
    "R", "S", "T", "U", "V", "W", "X", "Y", "Z", "a", "b", "c", "d", "e", "f", "g", "h", "i", "j",
    "k", "l", "m", "n", "o", "p", "q", "r", "s", "t", "u", "v", "w", "x", "y", "z", "A", "B", "C",
    "D", "E", "F", "G", "H", "I", "J", "K", "L"]),
  (0x1D440, #["M", "N", "O", "P", "Q", "R", "S", "T", "U", "V", "W", "X", "Y", "Z", "a", "b", "c",
    "d", "e", "f", "g"]),
  (0x1D456, #["i", "j", "k", "l", "m", "n", "o", "p", "q", "r", "s", "t", "u", "v", "w", "x", "y",
    "z", "A", "B", "C", "D", "E", "F", "G", "H", "I", "J", "K", "L", "M", "N", "O", "P", "Q", "R",
    "S", "T", "U", "V", "W", "X", "Y", "Z", "a", "b", "c", "d", "e", "f", "g", "h", "i", "j", "k",
    "l", "m", "n", "o", "p", "q", "r", "s", "t"]),
  (0x1D496, #["u", "v", "w", "x", "y", "z", "A"]),
  (0x1D49E, #["C", "D"]),
  (0x1D4A2, #["G"]),
  (0x1D4A5, #["J", "K"]),
  (0x1D4A9, #["N", "O", "P", "Q"]),
  (0x1D4AE, #["S", "T", "U", "V", "W", "X", "Y", "Z", "a", "b", "c", "d"]),
  (0x1D4BB, #["f"]),
  (0x1D4BD, #["h", "i", "j", "k", "l", "m", "n"]),
  (0x1D4C5, #["p", "q", "r", "s", "t", "u", "v", "w", "x", "y", "z", "A", "B", "C", "D", "E", "F",
    "G", "H", "I", "J", "K", "L", "M", "N", "O", "P", "Q", "R", "S", "T", "U", "V", "W", "X", "Y",
    "Z", "a", "b", "c", "d", "e", "f", "g", "h", "i", "j", "k", "l", "m", "n", "o", "p", "q", "r",
    "s", "t", "u", "v", "w", "x", "y", "z", "A"]),
  (0x1D505, #["B"]),
  (0x1D507, #["D", "E", "F", "G"]),
  (0x1D50D, #["J", "K", "L", "M", "N", "O", "P", "Q"]),
  (0x1D516, #["S", "T", "U", "V", "W", "X", "Y"]),
  (0x1D51E, #["a", "b", "c", "d", "e", "f", "g", "h", "i", "j", "k", "l", "m", "n", "o", "p", "q",
    "r", "s", "t", "u", "v", "w", "x", "y", "z", "A", "B"]),
  (0x1D53B, #["D", "E", "F", "G"]),
  (0x1D540, #["I", "J", "K", "L", "M"]),
  (0x1D546, #["O"]),
  (0x1D54A, #["S", "T", "U", "V", "W", "X", "Y"])]

/-- Decompositions from U+1D552 to U+1D6A5. -/
def mathematicalFrom1D552 : List (Nat × Array String) := [
  (0x1D552, #["a", "b", "c", "d", "e", "f", "g", "h", "i", "j", "k", "l", "m", "n", "o", "p", "q",
    "r", "s", "t", "u", "v", "w", "x", "y", "z", "A", "B", "C", "D", "E", "F", "G", "H", "I", "J",
    "K", "L", "M", "N", "O", "P", "Q", "R", "S", "T", "U", "V", "W", "X", "Y", "Z", "a", "b", "c",
    "d", "e", "f", "g", "h", "i", "j", "k", "l"]),
  (0x1D592, #["m", "n", "o", "p", "q", "r", "s", "t", "u", "v", "w", "x", "y", "z", "A", "B", "C",
    "D", "E", "F", "G", "H", "I", "J", "K", "L", "M", "N", "O", "P", "Q", "R", "S", "T", "U", "V",
    "W", "X", "Y", "Z", "a", "b", "c", "d", "e", "f", "g", "h", "i", "j", "k", "l", "m", "n", "o",
    "p", "q", "r", "s", "t", "u", "v", "w", "x"]),
  (0x1D5D2, #["y", "z", "A", "B", "C", "D", "E", "F", "G", "H", "I", "J", "K", "L", "M", "N", "O",
    "P", "Q", "R", "S", "T", "U", "V", "W", "X", "Y", "Z", "a", "b", "c", "d", "e", "f", "g", "h",
    "i", "j", "k", "l", "m", "n", "o", "p", "q", "r", "s", "t", "u", "v", "w", "x", "y", "z", "A",
    "B", "C", "D", "E", "F", "G", "H", "I", "J"]),
  (0x1D612, #["K", "L", "M", "N", "O", "P", "Q", "R", "S", "T", "U", "V", "W", "X", "Y", "Z", "a",
    "b", "c", "d", "e", "f", "g", "h", "i", "j", "k", "l", "m", "n", "o", "p", "q", "r", "s", "t",
    "u", "v", "w", "x", "y", "z", "A", "B", "C", "D", "E", "F", "G", "H", "I", "J", "K", "L", "M",
    "N", "O", "P", "Q", "R", "S", "T", "U", "V"]),
  (0x1D652, #["W", "X", "Y", "Z", "a", "b", "c", "d", "e", "f", "g", "h", "i", "j", "k", "l", "m",
    "n", "o", "p", "q", "r", "s", "t", "u", "v", "w", "x", "y", "z", "A", "B", "C", "D", "E", "F",
    "G", "H", "I", "J", "K", "L", "M", "N", "O", "P", "Q", "R", "S", "T", "U", "V", "W", "X", "Y",
    "Z", "a", "b", "c", "d", "e", "f", "g", "h"]),
  (0x1D692, #["i", "j", "k", "l", "m", "n", "o", "p", "q", "r", "s", "t", "u", "v", "w", "x", "y",
    "z", "ı", "ȷ"])]

/-- Decompositions from U+1D6A8 to U+1EE03. -/
def mathematicalFrom1D6A8 : List (Nat × Array String) := [
  (0x1D6A8, #["Α", "Β", "Γ", "Δ", "Ε", "Ζ", "Η", "Θ", "Ι", "Κ", "Λ", "Μ", "Ν", "Ξ", "Ο", "Π", "Ρ",
    "Θ", "Σ", "Τ", "Υ", "Φ", "Χ", "Ψ", "Ω", "∇", "α", "β", "γ", "δ", "ε", "ζ", "η", "θ", "ι", "κ",
    "λ", "μ", "ν", "ξ", "ο", "π", "ρ", "ς", "σ", "τ", "υ", "φ", "χ", "ψ", "ω", "∂", "ε", "θ", "κ",
    "φ", "ρ", "π", "Α", "Β", "Γ", "Δ", "Ε", "Ζ"]),
  (0x1D6E8, #["Η", "Θ", "Ι", "Κ", "Λ", "Μ", "Ν", "Ξ", "Ο", "Π", "Ρ", "Θ", "Σ", "Τ", "Υ", "Φ", "Χ",
    "Ψ", "Ω", "∇", "α", "β", "γ", "δ", "ε", "ζ", "η", "θ", "ι", "κ", "λ", "μ", "ν", "ξ", "ο", "π",
    "ρ", "ς", "σ", "τ", "υ", "φ", "χ", "ψ", "ω", "∂", "ε", "θ", "κ", "φ", "ρ", "π", "Α", "Β", "Γ",
    "Δ", "Ε", "Ζ", "Η", "Θ", "Ι", "Κ", "Λ", "Μ"]),
  (0x1D728, #["Ν", "Ξ", "Ο", "Π", "Ρ", "Θ", "Σ", "Τ", "Υ", "Φ", "Χ", "Ψ", "Ω", "∇", "α", "β", "γ",
    "δ", "ε", "ζ", "η", "θ", "ι", "κ", "λ", "μ", "ν", "ξ", "ο", "π", "ρ", "ς", "σ", "τ", "υ", "φ",
    "χ", "ψ", "ω", "∂", "ε", "θ", "κ", "φ", "ρ", "π", "Α", "Β", "Γ", "Δ", "Ε", "Ζ", "Η", "Θ", "Ι",
    "Κ", "Λ", "Μ", "Ν", "Ξ", "Ο", "Π", "Ρ", "Θ"]),
  (0x1D768, #["Σ", "Τ", "Υ", "Φ", "Χ", "Ψ", "Ω", "∇", "α", "β", "γ", "δ", "ε", "ζ", "η", "θ", "ι",
    "κ", "λ", "μ", "ν", "ξ", "ο", "π", "ρ", "ς", "σ", "τ", "υ", "φ", "χ", "ψ", "ω", "∂", "ε", "θ",
    "κ", "φ", "ρ", "π", "Α", "Β", "Γ", "Δ", "Ε", "Ζ", "Η", "Θ", "Ι", "Κ", "Λ", "Μ", "Ν", "Ξ", "Ο",
    "Π", "Ρ", "Θ", "Σ", "Τ", "Υ", "Φ", "Χ", "Ψ"]),
  (0x1D7A8, #["Ω", "∇", "α", "β", "γ", "δ", "ε", "ζ", "η", "θ", "ι", "κ", "λ", "μ", "ν", "ξ", "ο",
    "π", "ρ", "ς", "σ", "τ", "υ", "φ", "χ", "ψ", "ω", "∂", "ε", "θ", "κ", "φ", "ρ", "π", "Ϝ",
    "ϝ"]),
  (0x1D7CE, #["0", "1", "2", "3", "4", "5", "6", "7", "8", "9", "0", "1", "2", "3", "4", "5", "6",
    "7", "8", "9", "0", "1", "2", "3", "4", "5", "6", "7", "8", "9", "0", "1", "2", "3", "4", "5",
    "6", "7", "8", "9", "0", "1", "2", "3", "4", "5", "6", "7", "8", "9"]),
  (0x1EE00, #["\u0627", "\u0628", "\u062c", "\u062f"])]

/-- Decompositions from U+1EE05 to U+1FBF9. -/
def mathematicalFrom1EE05 : List (Nat × Array String) := [
  (0x1EE05, #["\u0648", "\u0632", "\u062d", "\u0637", "\u064a", "\u0643", "\u0644", "\u0645",
    "\u0646", "\u0633", "\u0639", "\u0641", "\u0635", "\u0642", "\u0631", "\u0634", "\u062a",
    "\u062b", "\u062e", "\u0630", "\u0636", "\u0638", "\u063a", "\u066e", "\u06ba", "\u06a1",
    "\u066f"]),
  (0x1EE21, #["\u0628", "\u062c"]),
  (0x1EE24, #["\u0647"]),
  (0x1EE27, #["\u062d"]),
  (0x1EE29, #["\u064a", "\u0643", "\u0644", "\u0645", "\u0646", "\u0633", "\u0639", "\u0641",
    "\u0635", "\u0642"]),
  (0x1EE34, #["\u0634", "\u062a", "\u062b", "\u062e"]),
  (0x1EE39, #["\u0636"]),
  (0x1EE3B, #["\u063a"]),
  (0x1EE42, #["\u062c"]),
  (0x1EE47, #["\u062d"]),
  (0x1EE49, #["\u064a"]),
  (0x1EE4B, #["\u0644"]),
  (0x1EE4D, #["\u0646", "\u0633", "\u0639"]),
  (0x1EE51, #["\u0635", "\u0642"]),
  (0x1EE54, #["\u0634"]),
  (0x1EE57, #["\u062e"]),
  (0x1EE59, #["\u0636"]),
  (0x1EE5B, #["\u063a"]),
  (0x1EE5D, #["\u06ba"]),
  (0x1EE5F, #["\u066f"]),
  (0x1EE61, #["\u0628", "\u062c"]),
  (0x1EE64, #["\u0647"]),
  (0x1EE67, #["\u062d", "\u0637", "\u064a", "\u0643"]),
  (0x1EE6C, #["\u0645", "\u0646", "\u0633", "\u0639", "\u0641", "\u0635", "\u0642"]),
  (0x1EE74, #["\u0634", "\u062a", "\u062b", "\u062e"]),
  (0x1EE79, #["\u0636", "\u0638", "\u063a", "\u066e"]),
  (0x1EE7E, #["\u06a1"]),
  (0x1EE80, #["\u0627", "\u0628", "\u062c", "\u062f", "\u0647", "\u0648", "\u0632", "\u062d",
    "\u0637", "\u064a"]),
  (0x1EE8B, #["\u0644", "\u0645", "\u0646", "\u0633", "\u0639", "\u0641", "\u0635", "\u0642",
    "\u0631", "\u0634", "\u062a", "\u062b", "\u062e", "\u0630", "\u0636", "\u0638", "\u063a"]),
  (0x1EEA1, #["\u0628", "\u062c", "\u062f"]),
  (0x1EEA5, #["\u0648", "\u0632", "\u062d", "\u0637", "\u064a"]),
  (0x1EEAB, #["\u0644", "\u0645", "\u0646", "\u0633", "\u0639", "\u0641", "\u0635", "\u0642",
    "\u0631", "\u0634", "\u062a", "\u062b", "\u062e", "\u0630", "\u0636", "\u0638", "\u063a"]),
  (0x1F100, #["0.", "0,", "1,", "2,", "3,", "4,", "5,", "6,", "7,", "8,", "9,"]),
  (0x1F110, #["(A)", "(B)", "(C)", "(D)", "(E)", "(F)", "(G)", "(H)", "(I)", "(J)", "(K)", "(L)",
    "(M)", "(N)", "(O)", "(P)", "(Q)", "(R)", "(S)", "(T)", "(U)", "(V)", "(W)", "(X)", "(Y)",
    "(Z)", "〔S〕", "C", "R", "CD", "WZ"]),
  (0x1F130, #["A", "B", "C", "D", "E", "F", "G", "H", "I", "J", "K", "L", "M", "N", "O", "P", "Q",
    "R", "S", "T", "U", "V", "W", "X", "Y", "Z", "HV", "MV", "SD", "SS", "PPV", "WC"]),
  (0x1F16A, #["MC", "MD", "MR"]),
  (0x1F190, #["DJ"]),
  (0x1F200, #["ほか", "ココ", "サ"]),
  (0x1F210, #["手", "字", "双", "テ\u3099", "二", "多", "解", "天", "交", "映", "無", "料", "前",
    "後", "再", "新", "初", "終", "生", "販", "声", "吹", "演", "投", "捕", "一", "三", "遊",
    "左", "中", "右", "指", "走", "打", "禁", "空", "合", "満", "有", "月", "申", "割", "営",
    "配"]),
  (0x1F240, #["〔本〕", "〔三〕", "〔二〕", "〔安〕", "〔点〕", "〔打〕", "〔盗〕", "〔勝〕",
    "〔敗〕"]),
  (0x1F250, #["得", "可"]),
  (0x1FBF0, #["0", "1", "2", "3", "4", "5", "6", "7", "8", "9"])]

/-- All rows of this table, in ascending order. -/
def mathematical : List (Nat × Array String) :=
  mathematicalFrom1D15E ++ mathematicalFrom1D552 ++ mathematicalFrom1D6A8 ++
    mathematicalFrom1EE05

end SchemaDecls.Text.Decomposition
