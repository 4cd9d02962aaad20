/-!
# Decompositions: presentation forms

Ligatures, positional Arabic forms, small forms and the half-width and full-width forms.
The table gives the full compatibility decomposition of 1079 characters, as of Unicode
14.0.0: each row starts at a code point and lists the forms of consecutive code points.
-/

namespace SchemaDecls.Text.Decomposition

/-- Decompositions from U+FB00 to U+FC92. -/
def presentationFromFB00 : List (Nat × Array String) := [
  (0xFB00, #["ff", "fi", "fl", "ffi", "ffl", "st", "st"]),
  (0xFB13, #["մն", "մե", "մի", "վն", "մխ"]),
  (0xFB1D, #["\u05d9\u05b4"]),
  (0xFB1F, #["\u05f2\u05b7", "\u05e2", "\u05d0", "\u05d3", "\u05d4", "\u05db", "\u05dc", "\u05dd",
    "\u05e8", "\u05ea", "+", "\u05e9\u05c1", "\u05e9\u05c2", "\u05e9\u05bc\u05c1",
    "\u05e9\u05bc\u05c2", "\u05d0\u05b7", "\u05d0\u05b8", "\u05d0\u05bc", "\u05d1\u05bc",
    "\u05d2\u05bc", "\u05d3\u05bc", "\u05d4\u05bc", "\u05d5\u05bc", "\u05d6\u05bc"]),
  (0xFB38, #["\u05d8\u05bc", "\u05d9\u05bc", "\u05da\u05bc", "\u05db\u05bc", "\u05dc\u05bc"]),
  (0xFB3E, #["\u05de\u05bc"]),
  (0xFB40, #["\u05e0\u05bc", "\u05e1\u05bc"]),
  (0xFB43, #["\u05e3\u05bc", "\u05e4\u05bc"]),
  (0xFB46, #["\u05e6\u05bc", "\u05e7\u05bc", "\u05e8\u05bc", "\u05e9\u05bc", "\u05ea\u05bc",
    "\u05d5\u05b9", "\u05d1\u05bf", "\u05db\u05bf", "\u05e4\u05bf", "\u05d0\u05dc", "\u0671",
    "\u0671", "\u067b", "\u067b", "\u067b", "\u067b", "\u067e", "\u067e", "\u067e", "\u067e",
    "\u0680", "\u0680", "\u0680", "\u0680", "\u067a", "\u067a", "\u067a", "\u067a", "\u067f",
    "\u067f", "\u067f", "\u067f", "\u0679", "\u0679", "\u0679", "\u0679", "\u06a4", "\u06a4",
    "\u06a4", "\u06a4", "\u06a6", "\u06a6", "\u06a6", "\u06a6", "\u0684", "\u0684", "\u0684",
    "\u0684", "\u0683", "\u0683", "\u0683", "\u0683", "\u0686", "\u0686", "\u0686", "\u0686",
    "\u0687", "\u0687", "\u0687", "\u0687", "\u068d", "\u068d", "\u068c", "\u068c"]),
  (0xFB86, #["\u068e", "\u068e", "\u0688", "\u0688", "\u0698", "\u0698", "\u0691", "\u0691",
    "\u06a9", "\u06a9", "\u06a9", "\u06a9", "\u06af", "\u06af", "\u06af", "\u06af", "\u06b3",
    "\u06b3", "\u06b3", "\u06b3", "\u06b1", "\u06b1", "\u06b1", "\u06b1", "\u06ba", "\u06ba",
    "\u06bb", "\u06bb", "\u06bb", "\u06bb", "\u06d5\u0654", "\u06d5\u0654", "\u06c1", "\u06c1",
    "\u06c1", "\u06c1", "\u06be", "\u06be", "\u06be", "\u06be", "\u06d2", "\u06d2",
    "\u06d2\u0654", "\u06d2\u0654"]),
  (0xFBD3, #["\u06ad", "\u06ad", "\u06ad", "\u06ad", "\u06c7", "\u06c7", "\u06c6", "\u06c6",
    "\u06c8", "\u06c8", "\u06c7\u0674", "\u06cb", "\u06cb", "\u06c5", "\u06c5", "\u06c9",
    "\u06c9", "\u06d0", "\u06d0", "\u06d0", "\u06d0", "\u0649", "\u0649", "\u064a\u0654\u0627",
    "\u064a\u0654\u0627", "\u064a\u0654\u06d5", "\u064a\u0654\u06d5", "\u064a\u0654\u0648",
    "\u064a\u0654\u0648", "\u064a\u0654\u06c7", "\u064a\u0654\u06c7", "\u064a\u0654\u06c6",
    "\u064a\u0654\u06c6", "\u064a\u0654\u06c8", "\u064a\u0654\u06c8", "\u064a\u0654\u06d0",
    "\u064a\u0654\u06d0", "\u064a\u0654\u06d0", "\u064a\u0654\u0649", "\u064a\u0654\u0649",
    "\u064a\u0654\u0649", "\u06cc", "\u06cc", "\u06cc", "\u06cc", "\u064a\u0654\u062c",
    "\u064a\u0654\u062d", "\u064a\u0654\u0645", "\u064a\u0654\u0649", "\u064a\u0654\u064a",
    "\u0628\u062c", "\u0628\u062d", "\u0628\u062e", "\u0628\u0645", "\u0628\u0649",
    "\u0628\u064a", "\u062a\u062c", "\u062a\u062d", "\u062a\u062e", "\u062a\u0645",
    "\u062a\u0649", "\u062a\u064a", "\u062b\u062c", "\u062b\u0645"]),
  (0xFC13, #["\u062b\u0649", "\u062b\u064a", "\u062c\u062d", "\u062c\u0645", "\u062d\u062c",
    "\u062d\u0645", "\u062e\u062c", "\u062e\u062d", "\u062e\u0645", "\u0633\u062c",
    "\u0633\u062d", "\u0633\u062e", "\u0633\u0645", "\u0635\u062d", "\u0635\u0645",
    "\u0636\u062c", "\u0636\u062d", "\u0636\u062e", "\u0636\u0645", "\u0637\u062d",
    "\u0637\u0645", "\u0638\u0645", "\u0639\u062c", "\u0639\u0645", "\u063a\u062c",
    "\u063a\u0645", "\u0641\u062c", "\u0641\u062d", "\u0641\u062e", "\u0641\u0645",
    "\u0641\u0649", "\u0641\u064a", "\u0642\u062d", "\u0642\u0645", "\u0642\u0649",
    "\u0642\u064a", "\u0643\u0627", "\u0643\u062c", "\u0643\u062d", "\u0643\u062e",
    "\u0643\u0644", "\u0643\u0645", "\u0643\u0649", "\u0643\u064a", "\u0644\u062c",
    "\u0644\u062d", "\u0644\u062e", "\u0644\u0645", "\u0644\u0649", "\u0644\u064a",
    "\u0645\u062c", "\u0645\u062d", "\u0645\u062e", "\u0645\u0645", "\u0645\u0649",
    "\u0645\u064a", "\u0646\u062c", "\u0646\u062d", "\u0646\u062e", "\u0646\u0645",
    "\u0646\u0649", "\u0646\u064a", "\u0647\u062c", "\u0647\u0645"]),
  (0xFC53, #["\u0647\u0649", "\u0647\u064a", "\u064a\u062c", "\u064a\u062d", "\u064a\u062e",
    "\u064a\u0645", "\u064a\u0649", "\u064a\u064a", "\u0630\u0670", "\u0631\u0670",
    "\u0649\u0670", " \u064c\u0651", " \u064d\u0651", " \u064e\u0651", " \u064f\u0651",
    " \u0650\u0651", " \u0651\u0670", "\u064a\u0654\u0631", "\u064a\u0654\u0632",
    "\u064a\u0654\u0645", "\u064a\u0654\u0646", "\u064a\u0654\u0649", "\u064a\u0654\u064a",
    "\u0628\u0631", "\u0628\u0632", "\u0628\u0645", "\u0628\u0646", "\u0628\u0649",
    "\u0628\u064a", "\u062a\u0631", "\u062a\u0632", "\u062a\u0645", "\u062a\u0646",
    "\u062a\u0649", "\u062a\u064a", "\u062b\u0631", "\u062b\u0632", "\u062b\u0645",
    "\u062b\u0646", "\u062b\u0649", "\u062b\u064a", "\u0641\u0649", "\u0641\u064a",
    "\u0642\u0649", "\u0642\u064a", "\u0643\u0627", "\u0643\u0644", "\u0643\u0645",
    "\u0643\u0649", "\u0643\u064a", "\u0644\u0645", "\u0644\u0649", "\u0644\u064a",
    "\u0645\u0627", "\u0645\u0645", "\u0646\u0631", "\u0646\u0632", "\u0646\u0645",
    "\u0646\u0646", "\u0646\u0649", "\u0646\u064a", "\u0649\u0670", "\u064a\u0631",
    "\u064a\u0632"])]

/-- Decompositions from U+FC93 to U+FE52. -/
def presentationFromFC93 : List (Nat × Array String) := [
  (0xFC93, #["\u064a\u0645", "\u064a\u0646", "\u064a\u0649", "\u064a\u064a", "\u064a\u0654\u062c",
    "\u064a\u0654\u062d", "\u064a\u0654\u062e", "\u064a\u0654\u0645", "\u064a\u0654\u0647",
    "\u0628\u062c", "\u0628\u062d", "\u0628\u062e", "\u0628\u0645", "\u0628\u0647",
    "\u062a\u062c", "\u062a\u062d", "\u062a\u062e", "\u062a\u0645", "\u062a\u0647",
    "\u062b\u0645", "\u062c\u062d", "\u062c\u0645", "\u062d\u062c", "\u062d\u0645",
    "\u062e\u062c", "\u062e\u0645", "\u0633\u062c", "\u0633\u062d", "\u0633\u062e",
    "\u0633\u0645", "\u0635\u062d", "\u0635\u062e", "\u0635\u0645", "\u0636\u062c",
    "\u0636\u062d", "\u0636\u062e", "\u0636\u0645", "\u0637\u062d", "\u0638\u0645",
    "\u0639\u062c", "\u0639\u0645", "\u063a\u062c", "\u063a\u0645", "\u0641\u062c",
    "\u0641\u062d", "\u0641\u062e", "\u0641\u0645", "\u0642\u062d", "\u0642\u0645",
    "\u0643\u062c", "\u0643\u062d", "\u0643\u062e", "\u0643\u0644", "\u0643\u0645",
    "\u0644\u062c", "\u0644\u062d", "\u0644\u062e", "\u0644\u0645", "\u0644\u0647",
    "\u0645\u062c", "\u0645\u062d", "\u0645\u062e", "\u0645\u0645", "\u0646\u062c"]),
  (0xFCD3, #["\u0646\u062d", "\u0646\u062e", "\u0646\u0645", "\u0646\u0647", "\u0647\u062c",
    "\u0647\u0645", "\u0647\u0670", "\u064a\u062c", "\u064a\u062d", "\u064a\u062e",
    "\u064a\u0645", "\u064a\u0647", "\u064a\u0654\u0645", "\u064a\u0654\u0647", "\u0628\u0645",
    "\u0628\u0647", "\u062a\u0645", "\u062a\u0647", "\u062b\u0645", "\u062b\u0647",
    "\u0633\u0645", "\u0633\u0647", "\u0634\u0645", "\u0634\u0647", "\u0643\u0644",
    "\u0643\u0645", "\u0644\u0645", "\u0646\u0645", "\u0646\u0647", "\u064a\u0645",
    "\u064a\u0647", "\u0640\u064e\u0651", "\u0640\u064f\u0651", "\u0640\u0650\u0651",
    "\u0637\u0649", "\u0637\u064a", "\u0639\u0649", "\u0639\u064a", "\u063a\u0649",
    "\u063a\u064a", "\u0633\u0649", "\u0633\u064a", "\u0634\u0649", "\u0634\u064a",
    "\u062d\u0649", "\u062d\u064a", "\u062c\u0649", "\u062c\u064a", "\u062e\u0649",
    "\u062e\u064a", "\u0635\u0649", "\u0635\u064a", "\u0636\u0649", "\u0636\u064a",
    "\u0634\u062c", "\u0634\u062d", "\u0634\u062e", "\u0634\u0645", "\u0634\u0631",
    "\u0633\u0631", "\u0635\u0631", "\u0636\u0631", "\u0637\u0649", "\u0637\u064a"]),
  (0xFD13, #["\u0639\u0649", "\u0639\u064a", "\u063a\u0649", "\u063a\u064a", "\u0633\u0649",
    "\u0633\u064a", "\u0634\u0649", "\u0634\u064a", "\u062d\u0649", "\u062d\u064a",
    "\u062c\u0649", "\u062c\u064a", "\u062e\u0649", "\u062e\u064a", "\u0635\u0649",
    "\u0635\u064a", "\u0636\u0649", "\u0636\u064a", "\u0634\u062c", "\u0634\u062d",
    "\u0634\u062e", "\u0634\u0645", "\u0634\u0631", "\u0633\u0631", "\u0635\u0631",
    "\u0636\u0631", "\u0634\u062c", "\u0634\u062d", "\u0634\u062e", "\u0634\u0645",
    "\u0633\u0647", "\u0634\u0647", "\u0637\u0645", "\u0633\u062c", "\u0633\u062d",
    "\u0633\u062e", "\u0634\u062c", "\u0634\u062d", "\u0634\u062e", "\u0637\u0645",
    "\u0638\u0645", "\u0627\u064b", "\u0627\u064b"]),
  (0xFD50, #["\u062a\u062c\u0645", "\u062a\u062d\u062c", "\u062a\u062d\u062c",
    "\u062a\u062d\u0645", "\u062a\u062e\u0645", "\u062a\u0645\u062c", "\u062a\u0645\u062d",
    "\u062a\u0645\u062e", "\u062c\u0645\u062d", "\u062c\u0645\u062d", "\u062d\u0645\u064a",
    "\u062d\u0645\u0649", "\u0633\u062d\u062c", "\u0633\u062c\u062d", "\u0633\u062c\u0649",
    "\u0633\u0645\u062d", "\u0633\u0645\u062d", "\u0633\u0645\u062c", "\u0633\u0645\u0645",
    "\u0633\u0645\u0645", "\u0635\u062d\u062d", "\u0635\u062d\u062d", "\u0635\u0645\u0645",
    "\u0634\u062d\u0645", "\u0634\u062d\u0645", "\u0634\u062c\u064a", "\u0634\u0645\u062e",
    "\u0634\u0645\u062e", "\u0634\u0645\u0645", "\u0634\u0645\u0645", "\u0636\u062d\u0649",
    "\u0636\u062e\u0645", "\u0636\u062e\u0645", "\u0637\u0645\u062d", "\u0637\u0645\u062d",
    "\u0637\u0645\u0645", "\u0637\u0645\u064a", "\u0639\u062c\u0645", "\u0639\u0645\u0645",
    "\u0639\u0645\u0645", "\u0639\u0645\u0649", "\u063a\u0645\u0645", "\u063a\u0645\u064a",
    "\u063a\u0645\u0649", "\u0641\u062e\u0645", "\u0641\u062e\u0645", "\u0642\u0645\u062d",
    "\u0642\u0645\u0645", "\u0644\u062d\u0645", "\u0644\u062d\u064a", "\u0644\u062d\u0649",
    "\u0644\u062c\u062c", "\u0644\u062c\u062c", "\u0644\u062e\u0645", "\u0644\u062e\u0645",
    "\u0644\u0645\u062d", "\u0644\u0645\u062d", "\u0645\u062d\u062c", "\u0645\u062d\u0645",
    "\u0645\u062d\u064a", "\u0645\u062c\u062d", "\u0645\u062c\u0645", "\u0645\u062e\u062c",
    "\u0645\u062e\u0645"]),
  (0xFD92, #["\u0645\u062c\u062e", "\u0647\u0645\u062c", "\u0647\u0645\u0645",
    "\u0646\u062d\u0645", "\u0646\u062d\u0649", "\u0646\u062c\u0645", "\u0646\u062c\u0645",
    "\u0646\u062c\u0649", "\u0646\u0645\u064a", "\u0646\u0645\u0649", "\u064a\u0645\u0645",
    "\u064a\u0645\u0645", "\u0628\u062e\u064a", "\u062a\u062c\u064a", "\u062a\u062c\u0649",
    "\u062a\u062e\u064a", "\u062a\u062e\u0649", "\u062a\u0645\u064a", "\u062a\u0645\u0649",
    "\u062c\u0645\u064a", "\u062c\u062d\u0649", "\u062c\u0645\u0649", "\u0633\u062e\u0649",
    "\u0635\u062d\u064a", "\u0634\u062d\u064a", "\u0636\u062d\u064a", "\u0644\u062c\u064a",
    "\u0644\u0645\u064a", "\u064a\u062d\u064a", "\u064a\u062c\u064a", "\u064a\u0645\u064a",
    "\u0645\u0645\u064a", "\u0642\u0645\u064a", "\u0646\u062d\u064a", "\u0642\u0645\u062d",
    "\u0644\u062d\u0645", "\u0639\u0645\u064a", "\u0643\u0645\u064a", "\u0646\u062c\u062d",
    "\u0645\u062e\u064a", "\u0644\u062c\u0645", "\u0643\u0645\u0645", "\u0644\u062c\u0645",
    "\u0646\u062c\u062d", "\u062c\u062d\u064a", "\u062d\u062c\u064a", "\u0645\u062c\u064a",
    "\u0641\u0645\u064a", "\u0628\u062d\u064a", "\u0643\u0645\u0645", "\u0639\u062c\u0645",
    "\u0635\u0645\u0645", "\u0633\u062e\u064a", "\u0646\u062c\u064a"]),
  (0xFDF0, #["\u0635\u0644\u06d2", "\u0642\u0644\u06d2", "\u0627\u0644\u0644\u0647",
    "\u0627\u0643\u0628\u0631", "\u0645\u062d\u0645\u062f", "\u0635\u0644\u0639\u0645",
    "\u0631\u0633\u0648\u0644", "\u0639\u0644\u064a\u0647", "\u0648\u0633\u0644\u0645",
    "\u0635\u0644\u0649",
    "\u0635\u0644\u0649 \u0627\u0644\u0644\u0647 \u0639\u0644\u064a\u0647 \u0648\u0633\u0644\u0645",
    "\u062c\u0644 \u062c\u0644\u0627\u0644\u0647", "\u0631\u06cc\u0627\u0644"]),
  (0xFE10, #[",", "、", "。", ":", ";", "!", "?", "〖", "〗", "..."]),
  (0xFE30, #["..", "—", "–", "_", "_", "(", ")", "\x7b", "\x7d", "〔", "〕", "【", "】", "《",
    "》", "〈", "〉", "「", "」", "『", "』"]),
  (0xFE47, #["[", "]", " \u0305", " \u0305", " \u0305", " \u0305", "_", "_", "_", ",", "、",
    "."])]

/-- Decompositions from U+FE54 to U+FFC7. -/
def presentationFromFE54 : List (Nat × Array String) := [
  (0xFE54, #[";", ":", "?", "!", "—", "(", ")", "\x7b", "\x7d", "〔", "〕", "#", "&", "*", "+",
    "-", "<", ">", "="]),
  (0xFE68, #["\\", "$", "%", "@"]),
  (0xFE70, #[" \u064b", "\u0640\u064b", " \u064c"]),
  (0xFE74, #[" \u064d"]),
  (0xFE76, #[" \u064e", "\u0640\u064e", " \u064f", "\u0640\u064f", " \u0650", "\u0640\u0650",
    " \u0651", "\u0640\u0651", " \u0652", "\u0640\u0652", "\u0621", "\u0627\u0653",
    "\u0627\u0653", "\u0627\u0654", "\u0627\u0654", "\u0648\u0654", "\u0648\u0654",
    "\u0627\u0655", "\u0627\u0655", "\u064a\u0654", "\u064a\u0654", "\u064a\u0654",
    "\u064a\u0654", "\u0627", "\u0627", "\u0628", "\u0628", "\u0628", "\u0628", "\u0629",
    "\u0629", "\u062a", "\u062a", "\u062a", "\u062a", "\u062b", "\u062b", "\u062b", "\u062b",
    "\u062c", "\u062c", "\u062c", "\u062c", "\u062d", "\u062d", "\u062d", "\u062d", "\u062e",
    "\u062e", "\u062e", "\u062e", "\u062f", "\u062f", "\u0630", "\u0630", "\u0631", "\u0631",
    "\u0632", "\u0632", "\u0633", "\u0633", "\u0633", "\u0633", "\u0634"]),
  (0xFEB6, #["\u0634", "\u0634", "\u0634", "\u0635", "\u0635", "\u0635", "\u0635", "\u0636",
    "\u0636", "\u0636", "\u0636", "\u0637", "\u0637", "\u0637", "\u0637", "\u0638", "\u0638",
    "\u0638", "\u0638", "\u0639", "\u0639", "\u0639", "\u0639", "\u063a", "\u063a", "\u063a",
    "\u063a", "\u0641", "\u0641", "\u0641", "\u0641", "\u0642", "\u0642", "\u0642", "\u0642",
    "\u0643", "\u0643", "\u0643", "\u0643", "\u0644", "\u0644", "\u0644", "\u0644", "\u0645",
    "\u0645", "\u0645", "\u0645", "\u0646", "\u0646", "\u0646", "\u0646", "\u0647", "\u0647",
    "\u0647", "\u0647", "\u0648", "\u0648", "\u0649", "\u0649", "\u064a", "\u064a", "\u064a",
    "\u064a", "\u0644\u0627\u0653"]),
  (0xFEF6, #["\u0644\u0627\u0653", "\u0644\u0627\u0654", "\u0644\u0627\u0654",
    "\u0644\u0627\u0655", "\u0644\u0627\u0655", "\u0644\u0627", "\u0644\u0627"]),
  (0xFF01, #["!", "\"", "#", "$", "%", "&", "'", "(", ")", "*", "+", ",", "-", ".", "/", "0", "1",
    "2", "3", "4", "5", "6", "7", "8", "9", ":", ";", "<", "=", ">", "?", "@", "A", "B", "C", "D",
    "E", "F", "G", "H", "I", "J", "K", "L", "M", "N", "O", "P", "Q", "R", "S", "T", "U", "V", "W",
    "X", "Y", "Z", "[", "\\", "]", "^", "_", "\x60"]),
  (0xFF41, #["a", "b", "c", "d", "e", "f", "g", "h", "i", "j", "k", "l", "m", "n", "o", "p", "q",
    "r", "s", "t", "u", "v", "w", "x", "y", "z", "\x7b", "|", "\x7d", "~", "⦅", "⦆", "。", "「",
    "」", "、", "・", "ヲ", "ァ", "ィ", "ゥ", "ェ", "ォ", "ャ", "ュ", "ョ", "ッ", "ー", "ア",
    "イ", "ウ", "エ", "オ", "カ", "キ", "ク", "ケ", "コ", "サ", "シ", "ス", "セ", "ソ", "タ"]),
  (0xFF81, #["チ", "ツ", "テ", "ト", "ナ", "ニ", "ヌ", "ネ", "ノ", "ハ", "ヒ", "フ", "ヘ", "ホ",
    "マ", "ミ", "ム", "メ", "モ", "ヤ", "ユ", "ヨ", "ラ", "リ", "ル", "レ", "ロ", "ワ", "ン",
    "\u3099", "\u309a", "\u1160", "\u1100", "\u1101", "\u11aa", "\u1102", "\u11ac", "\u11ad",
    "\u1103", "\u1104", "\u1105", "\u11b0", "\u11b1", "\u11b2", "\u11b3", "\u11b4", "\u11b5",
    "\u111a", "\u1106", "\u1107", "\u1108", "\u1121", "\u1109", "\u110a", "\u110b", "\u110c",
    "\u110d", "\u110e", "\u110f", "\u1110", "\u1111", "\u1112"]),
  (0xFFC2, #["\u1161", "\u1162", "\u1163", "\u1164", "\u1165", "\u1166"])]

/-- Decompositions from U+FFCA to U+FFEE. -/
def presentationFromFFCA : List (Nat × Array String) := [
  (0xFFCA, #["\u1167", "\u1168", "\u1169", "\u116a", "\u116b", "\u116c"]),
  (0xFFD2, #["\u116d", "\u116e", "\u116f", "\u1170", "\u1171", "\u1172"]),
  (0xFFDA, #["\u1173", "\u1174", "\u1175"]),
  (0xFFE0, #["¢", "£", "¬", " \u0304", "¦", "¥", "₩"]),
  (0xFFE8, #["│", "←", "↑", "→", "↓", "■", "○"])]

/-- All rows of this table, in ascending order. -/
def presentation : List (Nat × Array String) :=
  presentationFromFB00 ++ presentationFromFC93 ++ presentationFromFE54 ++ presentationFromFFCA

end SchemaDecls.Text.Decomposition
