/-!
# Decompositions: East Asian forms

Kana, compatibility jamo and the enclosed and squared forms of East Asian text. The
table gives the full compatibility decomposition of 677 characters, as of Unicode
14.0.0: each row starts at a code point and lists the forms of consecutive code points.
-/

namespace SchemaDecls.Text.Decomposition

/-- Decompositions from U+3000 to U+32BF. -/
def eastAsianFrom3000 : List (Nat × Array String) := [
  (0x3000, #[" "]),
  (0x3036, #["〒"]),
  (0x3038, #["十", "卄", "卅"]),
  (0x304C, #["か\u3099"]),
  (0x304E, #["き\u3099"]),
  (0x3050, #["く\u3099"]),
  (0x3052, #["け\u3099"]),
  (0x3054, #["こ\u3099"]),
  (0x3056, #["さ\u3099"]),
  (0x3058, #["し\u3099"]),
  (0x305A, #["す\u3099"]),
  (0x305C, #["せ\u3099"]),
  (0x305E, #["そ\u3099"]),
  (0x3060, #["た\u3099"]),
  (0x3062, #["ち\u3099"]),
  (0x3065, #["つ\u3099"]),
  (0x3067, #["て\u3099"]),
  (0x3069, #["と\u3099"]),
  (0x3070, #["は\u3099", "は\u309a"]),
  (0x3073, #["ひ\u3099", "ひ\u309a"]),
  (0x3076, #["ふ\u3099", "ふ\u309a"]),
  (0x3079, #["へ\u3099", "へ\u309a"]),
  (0x307C, #["ほ\u3099", "ほ\u309a"]),
  (0x3094, #["う\u3099"]),
  (0x309B, #[" \u3099", " \u309a"]),
  (0x309E, #["ゝ\u3099", "より"]),
  (0x30AC, #["カ\u3099"]),
  (0x30AE, #["キ\u3099"]),
  (0x30B0, #["ク\u3099"]),
  (0x30B2, #["ケ\u3099"]),
  (0x30B4, #["コ\u3099"]),
  (0x30B6, #["サ\u3099"]),
  (0x30B8, #["シ\u3099"]),
  (0x30BA, #["ス\u3099"]),
  (0x30BC, #["セ\u3099"]),
  (0x30BE, #["ソ\u3099"]),
  (0x30C0, #["タ\u3099"]),
  (0x30C2, #["チ\u3099"]),
  (0x30C5, #["ツ\u3099"]),
  (0x30C7, #["テ\u3099"]),
  (0x30C9, #["ト\u3099"]),
  (0x30D0, #["ハ\u3099", "ハ\u309a"]),
  (0x30D3, #["ヒ\u3099", "ヒ\u309a"]),
  (0x30D6, #["フ\u3099", "フ\u309a"]),
  (0x30D9, #["ヘ\u3099", "ヘ\u309a"]),
  (0x30DC, #["ホ\u3099", "ホ\u309a"]),
  (0x30F4, #["ウ\u3099"]),
  (0x30F7, #["ワ\u3099", "ヰ\u3099", "ヱ\u3099", "ヲ\u3099"]),
  (0x30FE, #["ヽ\u3099", "コト"]),
  (0x3131, #["\u1100", "\u1101", "\u11aa", "\u1102", "\u11ac", "\u11ad", "\u1103", "\u1104",
    "\u1105", "\u11b0", "\u11b1", "\u11b2", "\u11b3", "\u11b4", "\u11b5", "\u111a", "\u1106",
    "\u1107", "\u1108", "\u1121", "\u1109", "\u110a", "\u110b", "\u110c", "\u110d", "\u110e",
    "\u110f", "\u1110", "\u1111", "\u1112", "\u1161", "\u1162", "\u1163", "\u1164", "\u1165",
    "\u1166", "\u1167", "\u1168", "\u1169", "\u116a", "\u116b", "\u116c", "\u116d", "\u116e",
    "\u116f", "\u1170", "\u1171", "\u1172", "\u1173", "\u1174", "\u1175", "\u1160", "\u1114",
    "\u1115", "\u11c7", "\u11c8", "\u11cc", "\u11ce", "\u11d3", "\u11d7", "\u11d9", "\u111c",
    "\u11dd", "\u11df"]),
  (0x3171, #["\u111d", "\u111e", "\u1120", "\u1122", "\u1123", "\u1127", "\u1129", "\u112b",
    "\u112c", "\u112d", "\u112e", "\u112f", "\u1132", "\u1136", "\u1140", "\u1147", "\u114c",
    "\u11f1", "\u11f2", "\u1157", "\u1158", "\u1159", "\u1184", "\u1185", "\u1188", "\u1191",
    "\u1192", "\u1194", "\u119e", "\u11a1"]),
  (0x3192, #["一", "二", "三", "四", "上", "中", "下", "甲", "乙", "丙", "丁", "天", "地", "人"]),
  (0x3200, #["(\u1100)", "(\u1102)", "(\u1103)", "(\u1105)", "(\u1106)", "(\u1107)", "(\u1109)",
    "(\u110b)", "(\u110c)", "(\u110e)", "(\u110f)", "(\u1110)", "(\u1111)", "(\u1112)",
    "(\u1100\u1161)", "(\u1102\u1161)", "(\u1103\u1161)", "(\u1105\u1161)", "(\u1106\u1161)",
    "(\u1107\u1161)", "(\u1109\u1161)", "(\u110b\u1161)", "(\u110c\u1161)", "(\u110e\u1161)",
    "(\u110f\u1161)", "(\u1110\u1161)", "(\u1111\u1161)", "(\u1112\u1161)", "(\u110c\u116e)",
    "(\u110b\u1169\u110c\u1165\u11ab)", "(\u110b\u1169\u1112\u116e)"]),
  (0x3220, #["(一)", "(二)", "(三)", "(四)", "(五)", "(六)", "(七)", "(八)", "(九)", "(十)",
    "(月)", "(火)", "(水)", "(木)", "(金)", "(土)", "(日)", "(株)", "(有)", "(社)", "(名)",
    "(特)", "(財)", "(祝)", "(労)", "(代)", "(呼)", "(学)", "(監)", "(企)", "(資)", "(協)",
    "(祭)", "(休)", "(自)", "(至)", "問", "幼", "文", "箏"]),
  (0x3250, #["PTE", "21", "22", "23", "24", "25", "26", "27", "28", "29", "30", "31", "32", "33",
    "34", "35", "\u1100", "\u1102", "\u1103", "\u1105", "\u1106", "\u1107", "\u1109", "\u110b",
    "\u110c", "\u110e", "\u110f", "\u1110", "\u1111", "\u1112", "\u1100\u1161", "\u1102\u1161",
    "\u1103\u1161", "\u1105\u1161", "\u1106\u1161", "\u1107\u1161", "\u1109\u1161",
    "\u110b\u1161", "\u110c\u1161", "\u110e\u1161", "\u110f\u1161", "\u1110\u1161",
    "\u1111\u1161", "\u1112\u1161", "\u110e\u1161\u11b7\u1100\u1169", "\u110c\u116e\u110b\u1174",
    "\u110b\u116e"]),
  (0x3280, #["一", "二", "三", "四", "五", "六", "七", "八", "九", "十", "月", "火", "水", "木",
    "金", "土", "日", "株", "有", "社", "名", "特", "財", "祝", "労", "秘", "男", "女", "適",
    "優", "印", "注", "項", "休", "写", "正", "上", "中", "下", "左", "右", "医", "宗", "学",
    "監", "企", "資", "協", "夜", "36", "37", "38", "39", "40", "41", "42", "43", "44", "45",
    "46", "47", "48", "49", "50"])]

/-- Decompositions from U+32C0 to U+33FF. -/
def eastAsianFrom32C0 : List (Nat × Array String) := [
  (0x32C0, #["1月", "2月", "3月", "4月", "5月", "6月", "7月", "8月", "9月", "10月", "11月",
    "12月", "Hg", "erg", "eV", "LTD", "ア", "イ", "ウ", "エ", "オ", "カ", "キ", "ク", "ケ", "コ",
    "サ", "シ", "ス", "セ", "ソ", "タ", "チ", "ツ", "テ", "ト", "ナ", "ニ", "ヌ", "ネ", "ノ",
    "ハ", "ヒ", "フ", "ヘ", "ホ", "マ", "ミ", "ム", "メ", "モ", "ヤ", "ユ", "ヨ", "ラ", "リ",
    "ル", "レ", "ロ", "ワ", "ヰ", "ヱ", "ヲ", "令和"]),
  (0x3300, #["アハ\u309aート", "アルファ", "アンヘ\u309aア", "アール", "イニンク\u3099", "インチ",
    "ウォン", "エスクート\u3099", "エーカー", "オンス", "オーム", "カイリ", "カラット",
    "カロリー", "カ\u3099ロン", "カ\u3099ンマ", "キ\u3099カ\u3099", "キ\u3099ニー", "キュリー",
    "キ\u3099ルタ\u3099ー", "キロ", "キロク\u3099ラム", "キロメートル", "キロワット",
    "ク\u3099ラム", "ク\u3099ラムトン", "クルセ\u3099イロ", "クローネ", "ケース", "コルナ",
    "コーホ\u309a", "サイクル", "サンチーム", "シリンク\u3099", "センチ", "セント",
    "タ\u3099ース", "テ\u3099シ", "ト\u3099ル", "トン", "ナノ", "ノット", "ハイツ",
    "ハ\u309aーセント", "ハ\u309aーツ", "ハ\u3099ーレル", "ヒ\u309aアストル", "ヒ\u309aクル",
    "ヒ\u309aコ", "ヒ\u3099ル", "ファラット\u3099", "フィート", "フ\u3099ッシェル", "フラン",
    "ヘクタール", "ヘ\u309aソ", "ヘ\u309aニヒ", "ヘルツ", "ヘ\u309aンス", "ヘ\u309aーシ\u3099",
    "ヘ\u3099ータ", "ホ\u309aイント", "ホ\u3099ルト", "ホン"]),
  (0x3340, #["ホ\u309aント\u3099", "ホール", "ホーン", "マイクロ", "マイル", "マッハ", "マルク",
    "マンション", "ミクロン", "ミリ", "ミリハ\u3099ール", "メカ\u3099", "メカ\u3099トン",
    "メートル", "ヤート\u3099", "ヤール", "ユアン", "リットル", "リラ", "ルヒ\u309aー",
    "ルーフ\u3099ル", "レム", "レントケ\u3099ン", "ワット", "0点", "1点", "2点", "3点", "4点",
    "5点", "6点", "7点", "8点", "9点", "10点", "11点", "12点", "13点", "14点", "15点", "16点",
    "17点", "18点", "19点", "20点", "21点", "22点", "23点", "24点", "hPa", "da", "AU", "bar",
    "oV", "pc", "dm", "dm2", "dm3", "IU", "平成", "昭和", "大正", "明治", "株式会社"]),
  (0x3380, #["pA", "nA", "μA", "mA", "kA", "KB", "MB", "GB", "cal", "kcal", "pF", "nF", "μF",
    "μg", "mg", "kg", "Hz", "kHz", "MHz", "GHz", "THz", "μl", "ml", "dl", "kl", "fm", "nm", "μm",
    "mm", "cm", "km", "mm2", "cm2", "m2", "km2", "mm3", "cm3", "m3", "km3", "m∕s", "m∕s2", "Pa",
    "kPa", "MPa", "GPa", "rad", "rad∕s", "rad∕s2", "ps", "ns", "μs", "ms", "pV", "nV", "μV", "mV",
    "kV", "MV", "pW", "nW", "μW", "mW", "kW", "MW"]),
  (0x33C0, #["kΩ", "MΩ", "a.m.", "Bq", "cc", "cd", "C∕kg", "Co.", "dB", "Gy", "ha", "HP", "in",
    "KK", "KM", "kt", "lm", "ln", "log", "lx", "mb", "mil", "mol", "PH", "p.m.", "PPM", "PR",
    "sr", "Sv", "Wb", "V∕m", "A∕m", "1日", "2日", "3日", "4日", "5日", "6日", "7日", "8日", "9日",
    "10日", "11日", "12日", "13日", "14日", "15日", "16日", "17日", "18日", "19日", "20日",
    "21日", "22日", "23日", "24日", "25日", "26日", "27日", "28日", "29日", "30日", "31日",
    "gal"])]

/-- All rows of this table, in ascending order. -/
def eastAsian : List (Nat × Array String) :=
  eastAsianFrom3000 ++ eastAsianFrom32C0

end SchemaDecls.Text.Decomposition
