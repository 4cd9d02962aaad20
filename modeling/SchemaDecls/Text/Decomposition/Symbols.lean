/-!
# Decompositions: symbols

Spaces, punctuation, superscripts, letterlike symbols, fractions, enclosed characters
and radicals. The table gives the full compatibility decomposition of 589 characters, as
of Unicode 14.0.0: each row starts at a code point and lists the forms of consecutive
code points.
-/

namespace SchemaDecls.Text.Decomposition

/-- Decompositions from U+2000 to U+24DF. -/
def symbolsFrom2000 : List (Nat × Array String) := [
  (0x2000, #[" ", " ", " ", " ", " ", " ", " ", " ", " ", " ", " "]),
  (0x2011, #["‐"]),
  (0x2017, #[" \u0333"]),
  (0x2024, #[".", "..", "..."]),
  (0x202F, #[" "]),
  (0x2033, #["′′", "′′′"]),
  (0x2036, #["‵‵", "‵‵‵"]),
  (0x203C, #["!!"]),
  (0x203E, #[" \u0305"]),
  (0x2047, #["??", "?!", "!?"]),
  (0x2057, #["′′′′"]),
  (0x205F, #[" "]),
  (0x2070, #["0", "i"]),
  (0x2074, #["4", "5", "6", "7", "8", "9", "+", "−", "=", "(", ")", "n", "0", "1", "2", "3", "4",
    "5", "6", "7", "8", "9", "+", "−", "=", "(", ")"]),
  (0x2090, #["a", "e", "o", "x", "ə", "h", "k", "l", "m", "n", "p", "s", "t"]),
  (0x20A8, #["Rs"]),
  (0x2100, #["a/c", "a/s", "C", "°C"]),
  (0x2105, #["c/o", "c/u", "Ɛ"]),
  (0x2109, #["°F", "g", "H", "H", "H", "h", "ħ", "I", "I", "L", "l"]),
  (0x2115, #["N", "No"]),
  (0x2119, #["P", "Q", "R", "R", "R"]),
  (0x2120, #["SM", "TEL", "TM"]),
  (0x2124, #["Z"]),
  (0x2126, #["Ω"]),
  (0x2128, #["Z"]),
  (0x212A, #["K", "A\u030a", "B", "C"]),
  (0x212F, #["e", "E", "F"]),
  (0x2133, #["M", "o", "\u05d0", "\u05d1", "\u05d2", "\u05d3", "i"]),
  (0x213B, #["FAX", "π", "γ", "Γ", "Π", "∑"]),
  (0x2145, #["D", "d", "e", "i", "j"]),
  (0x2150, #["1⁄7", "1⁄9", "1⁄10", "1⁄3", "2⁄3", "1⁄5", "2⁄5", "3⁄5", "4⁄5", "1⁄6", "5⁄6", "1⁄8",
    "3⁄8", "5⁄8", "7⁄8", "1⁄", "I", "II", "III", "IV", "V", "VI", "VII", "VIII", "IX", "X", "XI",
    "XII", "L", "C", "D", "M", "i", "ii", "iii", "iv", "v", "vi", "vii", "viii", "ix", "x", "xi",
    "xii", "l", "c", "d", "m"]),
  (0x2189, #["0⁄3"]),
  (0x219A, #["←\u0338", "→\u0338"]),
  (0x21AE, #["↔\u0338"]),
  (0x21CD, #["⇐\u0338", "⇔\u0338", "⇒\u0338"]),
  (0x2204, #["∃\u0338"]),
  (0x2209, #["∈\u0338"]),
  (0x220C, #["∋\u0338"]),
  (0x2224, #["∣\u0338"]),
  (0x2226, #["∥\u0338"]),
  (0x222C, #["∫∫", "∫∫∫"]),
  (0x222F, #["∮∮", "∮∮∮"]),
  (0x2241, #["∼\u0338"]),
  (0x2244, #["≃\u0338"]),
  (0x2247, #["≅\u0338"]),
  (0x2249, #["≈\u0338"]),
  (0x2260, #["=\u0338"]),
  (0x2262, #["≡\u0338"]),
  (0x226D, #["≍\u0338", "<\u0338", ">\u0338", "≤\u0338", "≥\u0338"]),
  (0x2274, #["≲\u0338", "≳\u0338"]),
  (0x2278, #["≶\u0338", "≷\u0338"]),
  (0x2280, #["≺\u0338", "≻\u0338"]),
  (0x2284, #["⊂\u0338", "⊃\u0338"]),
  (0x2288, #["⊆\u0338", "⊇\u0338"]),
  (0x22AC, #["⊢\u0338", "⊨\u0338", "⊩\u0338", "⊫\u0338"]),
  (0x22E0, #["≼\u0338", "≽\u0338", "⊑\u0338", "⊒\u0338"]),
  (0x22EA, #["⊲\u0338", "⊳\u0338", "⊴\u0338", "⊵\u0338"]),
  (0x2329, #["〈", "〉"]),
  (0x2460, #["1", "2", "3", "4", "5", "6", "7", "8", "9", "10", "11", "12", "13", "14", "15",
    "16", "17", "18", "19", "20", "(1)", "(2)", "(3)", "(4)", "(5)", "(6)", "(7)", "(8)", "(9)",
    "(10)", "(11)", "(12)", "(13)", "(14)", "(15)", "(16)", "(17)", "(18)", "(19)", "(20)", "1.",
    "2.", "3.", "4.", "5.", "6.", "7.", "8.", "9.", "10.", "11.", "12.", "13.", "14.", "15.",
    "16.", "17.", "18.", "19.", "20.", "(a)", "(b)", "(c)", "(d)"]),
  (0x24A0, #["(e)", "(f)", "(g)", "(h)", "(i)", "(j)", "(k)", "(l)", "(m)", "(n)", "(o)", "(p)",
    "(q)", "(r)", "(s)", "(t)", "(u)", "(v)", "(w)", "(x)", "(y)", "(z)", "A", "B", "C", "D", "E",
    "F", "G", "H", "I", "J", "K", "L", "M", "N", "O", "P", "Q", "R", "S", "T", "U", "V", "W", "X",
    "Y", "Z", "a", "b", "c", "d", "e", "f", "g", "h", "i", "j", "k", "l", "m", "n", "o", "p"])]

/-- Decompositions from U+24E0 to U+2FD5. -/
def symbolsFrom24E0 : List (Nat × Array String) := [
  (0x24E0, #["q", "r", "s", "t", "u", "v", "w", "x", "y", "z", "0"]),
  (0x2A0C, #["∫∫∫∫"]),
  (0x2A74, #["::=", "==", "==="]),
  (0x2ADC, #["⫝\u0338"]),
  (0x2C7C, #["j", "V"]),
  (0x2D6F, #["ⵡ"]),
  (0x2E9F, #["母"]),
  (0x2EF3, #["龟"]),
  (0x2F00, #["一", "丨", "丶", "丿", "乙", "亅", "二", "亠", "人", "儿", "入", "八", "冂", "冖",
    "冫", "几", "凵", "刀", "力", "勹", "匕", "匚", "匸", "十", "卜", "卩", "厂", "厶", "又",
    "口", "囗", "土", "士", "夂", "夊", "夕", "大", "女", "子", "宀", "寸", "小", "尢", "尸",
    "屮", "山", "巛", "工", "己", "巾", "干", "幺", "广", "廴", "廾", "弋", "弓", "彐", "彡",
    "彳", "心", "戈", "戶", "手"]),
  (0x2F40, #["支", "攴", "文", "斗", "斤", "方", "无", "日", "曰", "月", "木", "欠", "止", "歹",
    "殳", "毋", "比", "毛", "氏", "气", "水", "火", "爪", "父", "爻", "爿", "片", "牙", "牛",
    "犬", "玄", "玉", "瓜", "瓦", "甘", "生", "用", "田", "疋", "疒", "癶", "白", "皮", "皿",
    "目", "矛", "矢", "石", "示", "禸", "禾", "穴", "立", "竹", "米", "糸", "缶", "网", "羊",
    "羽", "老", "而", "耒", "耳"]),
  (0x2F80, #["聿", "肉", "臣", "自", "至", "臼", "舌", "舛", "舟", "艮", "色", "艸", "虍", "虫",
    "血", "行", "衣", "襾", "見", "角", "言", "谷", "豆", "豕", "豸", "貝", "赤", "走", "足",
    "身", "車", "辛", "辰", "辵", "邑", "酉", "釆", "里", "金", "長", "門", "阜", "隶", "隹",
    "雨", "靑", "非", "面", "革", "韋", "韭", "音", "頁", "風", "飛", "食", "首", "香", "馬",
    "骨", "高", "髟", "鬥", "鬯"]),
  (0x2FC0, #["鬲", "鬼", "魚", "鳥", "鹵", "鹿", "麥", "麻", "黃", "黍", "黑", "黹", "黽", "鼎",
    "鼓", "鼠", "鼻", "齊", "齒", "龍", "龜", "龠"])]

/-- All rows of this table, in ascending order. -/
def symbols : List (Nat × Array String) :=
  symbolsFrom2000 ++ symbolsFrom24E0

end SchemaDecls.Text.Decomposition
