import Mathlib.Data.List.Basic
import SchemaDecls.Text.DecimalDigit
import SchemaDecls.Text.Plain

/-!
# Digits of plain texts

Decompositions are full: what is left of a text cannot be taken apart further.  That is a
property of the tables, and of all the characters that they give it is used here for the
decimal digits only (`decompose_of_mem_plain`).

Most decimal digits have no decomposition.  Those that have one are the styled digits, and
what has to be excluded is that one of them occurs in a table.  The texts of the tables are
looked at as bytes, since to decode all of them takes long.  A styled digit opens with a
byte of `0xEF` at least, and where no such byte occurs there is nothing to decode
(`toNat_lt_of_isLow`).
-/

namespace SchemaDecls.Text

/-- Code points of the decimal digits that stand for an ordinary one: full-width,
mathematical and segmented digits. -/
def styledDigitRanges : List (Nat × Nat) :=
  [(0xFF10, 0xFF19), (0x1D7CE, 0x1D7FF), (0x1FBF0, 0x1FBF9)]

/-- Styled digits lie beyond the first planes of scripts. -/
theorem inRanges_styledDigitRanges_of_lt {code : Nat} (h : code < 0xF000) :
    inRanges styledDigitRanges code = false := by
  apply inRanges_eq_false_of_forall_lt
  intro r hr
  have hstart : 0xF000 ≤ r.1 := by
    revert r
    decide
  omega

namespace Decomposition

/-! ## Digits that have no decomposition -/

/-- A code point that lies in no row has no form. -/
theorem form?_eq_none {code : Nat}
    (h : ∀ row ∈ rows, code < row.1 ∨ row.1 + row.2.size ≤ code) : form? code = none := by
  unfold form?
  rw [List.findSome?_eq_none_iff]
  intro row hrow
  rcases h row hrow with hbefore | hbehind
  · rw [if_neg (Nat.not_le.mpr hbefore)]
  · split
    · exact Array.getElem?_eq_none (by omega)
    · rfl

/-- The form of a code point stands in one of the rows. -/
theorem mem_of_form?_eq_some {code : Nat} {form : String} (h : form? code = some form) :
    ∃ row ∈ rows, form ∈ row.2.toList := by
  obtain ⟨row, hrow, hform⟩ := List.exists_of_findSome?_eq_some h
  split at hform
  · exact ⟨row, hrow, Array.mem_toList_iff.mpr (Array.mem_of_getElem? hform)⟩
  · contradiction

/-- The rows and the ranges of digits that are not styled lie apart. -/
def digitsApart : Bool :=
  rows.all fun row => decimalDigitRanges.all fun r =>
    styledDigitRanges.contains r || Nat.blt r.2 row.1 || Nat.ble (row.1 + row.2.size) r.1

theorem digitsApart_eq_true : digitsApart = true := by decide +kernel

end Decomposition

open Decomposition

/-- A decimal digit that is not styled has no decomposition. -/
theorem decompose_of_isDecimalDigit {c : Char} (hdigit : isDecimalDigit c = true)
    (hstyled : inRanges styledDigitRanges c.toNat = false) : decompose c = [c] := by
  obtain ⟨r, hr, hlow, hhigh⟩ := inRanges_eq_true_iff.mp hdigit
  have hplain : styledDigitRanges.contains r = false := by
    by_contra hmem
    have hin : inRanges styledDigitRanges c.toNat = true :=
      inRanges_eq_true_iff.mpr ⟨r, by simpa using hmem, hlow, hhigh⟩
    rw [hstyled] at hin
    contradiction
  have hnone : form? c.toNat = none := by
    apply form?_eq_none
    intro row hrow
    have hapart := List.all_eq_true.mp (List.all_eq_true.mp digitsApart_eq_true row hrow) r hr
    simp only [hplain, Bool.false_or, Bool.or_eq_true, Nat.blt_eq, Nat.ble_eq] at hapart
    omega
  have hsyllable : isSyllable c.toNat = false := by
    have hends : ∀ r ∈ decimalDigitRanges, r.2 < 0xAC00 ∨ 0xD7A3 < r.1 := by decide
    have hend := hends r hr
    simp only [isSyllable, Bool.and_eq_false_iff, decide_eq_false_iff_not]
    omega
  simp [decompose, hsyllable, hnone]

/-! ## Styled digits in the tables -/

namespace Decomposition

/-- No byte of the text opens a character from U+F000 on. -/
def isLow (form : String) : Bool :=
  form.toByteArray.data.toList.all fun b => Nat.blt b.toNat 0xEF

theorem toNat_lt_of_isLow {form : String} (h : isLow form = true) {c : Char}
    (hc : c ∈ form.toList) : c.toNat < 0xF000 := by
  have hbytes : form.toByteArray.data.toList = form.toList.flatMap String.utf8EncodeChar := by
    rw [← List.toList_data_toByteArray (l := form.toList.flatMap String.utf8EncodeChar),
      ← List.utf8Encode, ← String.toByteArray_ofList, String.ofList_toList]
  have hlow : ∀ b ∈ String.utf8EncodeChar c, b.toNat < 0xEF := by
    intro b hb
    have hmem : b ∈ form.toByteArray.data.toList := by
      rw [hbytes]
      exact List.mem_flatMap.mpr ⟨c, hc, hb⟩
    simpa using List.all_eq_true.mp h b hmem
  have hvalue : c.val.toNat = c.toNat := rfl
  -- From U+F000 on the first byte alone is too large.
  unfold String.utf8EncodeChar at hlow
  simp only [hvalue] at hlow
  split at hlow
  · omega
  split at hlow
  · omega
  split at hlow
  · have hfirst := hlow _ List.mem_cons_self
    simp only [UInt8.toNat_ofNat'] at hfirst
    omega
  · have hfirst := hlow _ List.mem_cons_self
    simp only [UInt8.toNat_ofNat'] at hfirst
    omega

/-- No form holds a styled digit. -/
def formsSettled : Bool :=
  rows.all fun row => row.2.toList.all fun form =>
    isLow form || form.toList.all fun c => !inRanges styledDigitRanges c.toNat

theorem formsSettled_eq_true : formsSettled = true := by decide +kernel

theorem not_styled_of_mem_form {code : Nat} {form : String} (h : form? code = some form) {c : Char}
    (hc : c ∈ form.toList) : inRanges styledDigitRanges c.toNat = false := by
  obtain ⟨row, hrow, hform⟩ := mem_of_form?_eq_some h
  have hforms := List.all_eq_true.mp formsSettled_eq_true row hrow
  have hsettled := List.all_eq_true.mp hforms form hform
  rcases Bool.or_eq_true_iff.mp hsettled with hlow | hall
  · exact inRanges_styledDigitRanges_of_lt (toNat_lt_of_isLow hlow hc)
  · simpa using List.all_eq_true.mp hall c hc

theorem toNat_ofNat_le (n : Nat) : (Char.ofNat n).toNat ≤ n := by
  by_cases h : n.isValidChar
  · rw [Char.ofNat, dif_pos h]
    exact Nat.le_refl n
  · rw [Char.ofNat, dif_neg h]
    exact Nat.zero_le n

/-- Neither does a syllable that is taken apart. -/
theorem not_styled_of_mem_jamo {code : Nat} (h : isSyllable code = true) {c : Char}
    (hc : c ∈ jamo code) : inRanges styledDigitRanges c.toNat = false := by
  apply inRanges_styledDigitRanges_of_lt
  simp only [isSyllable, Bool.and_eq_true, decide_eq_true_eq] at h
  have hbelow : ∀ n, n < 0xF000 → (Char.ofNat n).toNat < 0xF000 := fun n hn =>
    Nat.lt_of_le_of_lt (toNat_ofNat_le n) hn
  unfold jamo at hc
  dsimp only at hc
  split at hc
  · rcases List.mem_pair.mp hc with hlead | hvowel
    · exact hlead ▸ hbelow _ (by omega)
    · exact hvowel ▸ hbelow _ (by omega)
  · simp only [List.mem_cons, List.not_mem_nil, or_false] at hc
    rcases hc with hlead | hvowel | htrail
    · exact hlead ▸ hbelow _ (by omega)
    · exact hvowel ▸ hbelow _ (by omega)
    · exact htrail ▸ hbelow _ (by omega)

end Decomposition

/-- The digits that a decomposition consists of have no decomposition themselves. -/
theorem decompose_of_mem_decompose {c d : Char} (hd : d ∈ decompose c)
    (hdigit : isDecimalDigit d = true) : decompose d = [d] := by
  by_cases hself : decompose c = [c]
  · rw [hself, List.mem_singleton] at hd
    rw [hd, hself]
  · apply decompose_of_isDecimalDigit hdigit
    unfold decompose at hd hself
    split at hd
    case isTrue hlt => simp [hlt] at hself
    case isFalse hlt =>
      split at hd
      case isTrue hsyllable => exact not_styled_of_mem_jamo hsyllable hd
      case isFalse hsyllable =>
        split at hd
        next form hform => exact not_styled_of_mem_form hform hd
        next hform => simp [hlt, hsyllable, hform] at hself

/-- The digits of a plain text have no decomposition. -/
theorem decompose_of_mem_plain {s : List Char} {c : Char} (hc : c ∈ plain s)
    (hdigit : isDecimalDigit c = true) : decompose c = [c] := by
  obtain ⟨d, -, hd⟩ := List.mem_flatMap.mp (List.mem_filter.mp hc).1
  exact decompose_of_mem_decompose hd hdigit

/-! ## Digits stay -/

/-- The ranges of digits and of combining characters lie apart. -/
def digitsUncombined : Bool :=
  decimalDigitRanges.all fun r => combiningRanges.all fun q =>
    Nat.blt r.2 q.1 || Nat.blt q.2 r.1

theorem digitsUncombined_eq_true : digitsUncombined = true := by decide +kernel

theorem isCombining_of_isDecimalDigit {c : Char} (h : isDecimalDigit c = true) :
    isCombining c = false := by
  obtain ⟨r, hr, hlow, hhigh⟩ := inRanges_eq_true_iff.mp h
  rw [← Bool.not_eq_true, isCombining, inRanges_eq_true_iff]
  rintro ⟨q, hq, hlow', hhigh'⟩
  have hapart := List.all_eq_true.mp (List.all_eq_true.mp digitsUncombined_eq_true r hr) q hq
  simp only [Bool.or_eq_true, Nat.blt_eq] at hapart
  omega

/-- A text without decompositions and combining characters is plain. -/
theorem plain_eq_self {s : List Char} (hdecompose : ∀ c ∈ s, decompose c = [c])
    (hcombining : ∀ c ∈ s, isCombining c = false) : plain s = s := by
  have hflat : s.flatMap decompose = s := by
    rw [List.flatMap_congr hdecompose]
    exact List.flatMap_singleton' s
  rw [plain, hflat, List.filter_eq_self]
  intro c hc
  rw [hcombining c hc, Bool.not_false]

end SchemaDecls.Text
