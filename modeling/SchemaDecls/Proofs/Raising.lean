import Mathlib.Data.Bool.Basic
import Mathlib.Data.List.Forall2
import SchemaDecls.Identifier

/-!
# Characters of an identifier

The steps that make an identifier of a name do two things to a character: they leave it
out, or they raise it.  What stands in the identifier is thus a character of the name,
possibly raised (`exists_of_mem_ofPlain`).

Raising changes letters only.  Letters are ASCII letters, so that decimal digits, blanks and
letters are apart, and the class to which a character belongs stays when it is raised.
-/

namespace SchemaDecls.Identifier

/-! ## Classes of characters -/

theorem isUpper_iff {c : Char} : c.isUpper = true ↔ 0x41 ≤ c.toNat ∧ c.toNat ≤ 0x5A := by
  unfold Char.isUpper
  rw [decide_eq_true_iff, ge_iff_le, UInt32.le_iff_toNat_le, UInt32.le_iff_toNat_le]
  rfl

theorem isLower_iff_le {c : Char} : c.isLower = true ↔ 'a'.val ≤ c.val ∧ c.val ≤ 'z'.val := by
  unfold Char.isLower
  rw [Bool.and_eq_true, decide_eq_true_iff, decide_eq_true_iff]

theorem isLower_iff {c : Char} : c.isLower = true ↔ 0x61 ≤ c.toNat ∧ c.toNat ≤ 0x7A := by
  rw [isLower_iff_le, UInt32.le_iff_toNat_le, UInt32.le_iff_toNat_le]
  rfl

theorem isAlpha_iff {c : Char} : c.isAlpha = true ↔ c.isUpper = true ∨ c.isLower = true :=
  Bool.or_eq_true_iff

theorem isStart_of_isAlpha {c : Char} (h : c.isAlpha = true) : isStart c = true := by
  simp [isStart, h]

theorem isPart_of_isStart {c : Char} (h : isStart c = true) : isPart c = true := by
  simp [isPart, h]

/-- What opens an identifier is a visible ASCII character, and no digit. -/
theorem toNat_of_isStart {c : Char} (h : isStart c = true) :
    (0x20 < c.toNat ∧ c.toNat < 0x7F) ∧ (c.toNat < 0x30 ∨ 0x39 < c.toNat) := by
  simp only [isStart, Bool.or_eq_true, beq_iff_eq, isAlpha_iff, isUpper_iff, isLower_iff] at h
  rcases h with (⟨hlow, hhigh⟩ | ⟨hlow, hhigh⟩) | rfl | rfl
  · omega
  · omega
  · decide
  · decide

/-- Decimal digits of other scripts lie beyond ASCII. -/
theorem isDecimalDigit_of_isStart {c : Char} (h : isStart c = true) :
    Text.isDecimalDigit c = false := by
  have hends : ∀ r ∈ Text.decimalDigitRanges, 0x7F ≤ r.1 ∨ (0x30 ≤ r.1 ∧ r.2 ≤ 0x39) := by
    decide
  obtain ⟨hascii, hdigit⟩ := toNat_of_isStart h
  rw [← Bool.not_eq_true, Text.isDecimalDigit, Text.inRanges_eq_true_iff]
  rintro ⟨r, hr, hlow, hhigh⟩
  have hend := hends r hr
  omega

/-- What may stand in an identifier opens one unless it is a decimal digit. -/
theorem isStart_eq_not_of_isPart {c : Char} (h : isPart c = true) :
    isStart c = !Text.isDecimalDigit c := by
  cases hstart : isStart c with
  | true => rw [isDecimalDigit_of_isStart hstart, Bool.not_false]
  | false =>
      have hdigit : Text.isDecimalDigit c = true := by simpa [isPart, hstart] using h
      rw [hdigit, Bool.not_true]

/-- A blank does not stand in an identifier. -/
theorem isPart_of_isBlank {c : Char} (h : Text.isBlank c = true) : isPart c = false := by
  have hends : ∀ b ∈ Text.blankRanges, b.2 ≤ 0x20 ∨ 0x7F ≤ b.1 := by decide
  have hapart : ∀ b ∈ Text.blankRanges, ∀ r ∈ Text.decimalDigitRanges,
      b.2 < r.1 ∨ r.2 < b.1 := by
    decide
  obtain ⟨b, hb, hlow, hhigh⟩ := Text.inRanges_eq_true_iff.mp h
  rw [← Bool.not_eq_true, isPart, Bool.or_eq_true]
  rintro (hstart | hdigit)
  · have hascii := (toNat_of_isStart hstart).1
    have hend := hends b hb
    omega
  · obtain ⟨r, hr, hlow', hhigh'⟩ := Text.inRanges_eq_true_iff.mp hdigit
    have := hapart b hb r hr
    omega

theorem isBlank_of_isPart {c : Char} (h : isPart c = true) : Text.isBlank c = false := by
  by_contra hblank
  rw [isPart_of_isBlank (Bool.eq_true_of_not_eq_false hblank)] at h
  contradiction

/-! ## Raising

No single module of Mathlib reaches the lemmas on the case of letters that come with it.  The
few that are needed here follow from the codes of the letters. -/

theorem isAlpha_of_isUpper {c : Char} (h : c.isUpper = true) : c.isAlpha = true :=
  isAlpha_iff.mpr (.inl h)

theorem isAlpha_of_isLower {c : Char} (h : c.isLower = true) : c.isAlpha = true :=
  isAlpha_iff.mpr (.inr h)

theorem isLower_of_isUpper {c : Char} (h : c.isUpper = true) : c.isLower = false := by
  have hcapital := isUpper_iff.mp h
  rw [← Bool.not_eq_true, isLower_iff]
  omega

theorem toUpper_eq_self {c : Char} (h : c.isLower = false) : c.toUpper = c := by
  rw [← Bool.not_eq_true, isLower_iff_le] at h
  exact dif_neg h

theorem isUpper_toUpper_of_isLower {c : Char} (h : c.isLower = true) :
    c.toUpper.isUpper = true := by
  have hraised : c.toUpper.val = c.val + ('A'.val - 'a'.val) := by
    unfold Char.toUpper
    rw [dif_pos (isLower_iff_le.mp h)]
  -- The sum goes round, and so a letter comes down by the distance from `a` to `A`.
  have hcode : c.toUpper.toNat = (c.toNat + (2 ^ 32 - 0x20)) % 2 ^ 32 := by
    show c.toUpper.val.toNat = _
    rw [hraised, UInt32.toNat_add]
    rfl
  have hletter := isLower_iff.mp h
  rw [isUpper_iff, hcode]
  omega

theorem isAlpha_toUpper_of_isLower {c : Char} (h : c.isLower = true) :
    c.toUpper.isAlpha = true :=
  isAlpha_of_isUpper (isUpper_toUpper_of_isLower h)

/-- Raising leaves what is no small letter as it is, and makes a capital of a small letter. -/
theorem toUpper_cases (c : Char) :
    c.isLower = false ∧ c.toUpper = c ∨ c.isLower = true ∧ c.toUpper.isUpper = true := by
  cases h : c.isLower with
  | false => exact .inl ⟨rfl, toUpper_eq_self h⟩
  | true => exact .inr ⟨rfl, isUpper_toUpper_of_isLower h⟩

/-- Raising leaves no small letter. -/
theorem isLower_toUpper (c : Char) : c.toUpper.isLower = false := by
  rcases toUpper_cases c with ⟨hlower, hsame⟩ | ⟨-, hupper⟩
  · rw [hsame, hlower]
  · exact isLower_of_isUpper hupper

/-- What holds of all letters or of none does not change when a character is raised. -/
theorem apply_toUpper {p : Char → Bool} {b : Bool} (hp : ∀ c, c.isAlpha = true → p c = b)
    (c : Char) : p c.toUpper = p c := by
  rcases toUpper_cases c with ⟨-, hsame⟩ | ⟨hlower, -⟩
  · rw [hsame]
  · rw [hp c (isAlpha_of_isLower hlower), hp c.toUpper (isAlpha_toUpper_of_isLower hlower)]

/-- The first character is the second one, possibly raised. -/
def RaisedFrom (d c : Char) : Prop := d = c ∨ d = c.toUpper

namespace RaisedFrom

variable {c d : Char}

instance : Std.Refl RaisedFrom := ⟨fun _ => .inl rfl⟩

/-- To raise a character twice is to raise it once. -/
instance : IsTrans Char RaisedFrom where
  trans e d c h h' := by
    rcases h with rfl | rfl
    · exact h'
    · rcases h' with rfl | rfl
      · exact .inr rfl
      · exact .inr (toUpper_eq_self (isLower_toUpper c))

theorem ite (p : Prop) [Decidable p] (c : Char) :
    RaisedFrom (if p then c.toUpper else c) c := by
  split
  · exact .inr rfl
  · exact .inl rfl

theorem apply_eq (h : RaisedFrom d c) {p : Char → Bool} {b : Bool}
    (hp : ∀ c, c.isAlpha = true → p c = b) : p d = p c := by
  rcases h with rfl | rfl
  · rfl
  · exact apply_toUpper hp c

theorem isStart_eq (h : RaisedFrom d c) : isStart d = isStart c :=
  h.apply_eq fun _ => isStart_of_isAlpha

theorem isDecimalDigit_eq (h : RaisedFrom d c) :
    Text.isDecimalDigit d = Text.isDecimalDigit c :=
  h.apply_eq fun _ halpha => isDecimalDigit_of_isStart (isStart_of_isAlpha halpha)

theorem isPart_eq (h : RaisedFrom d c) : isPart d = isPart c :=
  h.apply_eq fun _ halpha => isPart_of_isStart (isStart_of_isAlpha halpha)

theorem isBlank_eq (h : RaisedFrom d c) : Text.isBlank d = Text.isBlank c :=
  h.apply_eq fun _ halpha => isBlank_of_isPart (isPart_of_isStart (isStart_of_isAlpha halpha))

/-- Raising makes no other character equal to one that is no letter. -/
theorem beq_eq (h : RaisedFrom d c) {other : Char} (hother : other.isAlpha = false) :
    (d == other) = (c == other) := by
  apply h.apply_eq (p := (· == other)) (b := false)
  intro e halpha
  rw [beq_eq_false_iff_ne]
  rintro rfl
  rw [halpha] at hother
  contradiction

/-- What is no letter has not been raised. -/
theorem eq_of_not_isAlpha (h : RaisedFrom d c) (hd : d.isAlpha = false) : d = c := by
  have hsame := h.beq_eq hd
  rw [BEq.rfl] at hsame
  exact (beq_iff_eq.mp hsame.symm).symm

end RaisedFrom

/-! ## What the steps leave -/

open List (Forall₂ SublistForall₂)

theorem raiseLeading_raised (s : List Char) : Forall₂ RaisedFrom (raiseLeading s) s := by
  fun_cases raiseLeading s with
  | case1 c rest => exact .cons (refl _) (.cons (.ite _ c) (List.forall₂_refl rest))
  | case2 => exact List.forall₂_refl s

theorem raiseAfterDigit_raised (afterDigit : Bool) (s : List Char) :
    Forall₂ RaisedFrom (raiseAfterDigit afterDigit s) s := by
  induction s generalizing afterDigit with
  | nil => exact .nil
  | cons c rest ih => exact .cons (.ite _ c) (ih _)

theorem capitalize_raised (s : List Char) : Forall₂ RaisedFrom (capitalize s) s := by
  cases s with
  | nil => exact .nil
  | cons c rest => exact .cons (.inr rfl) (List.forall₂_refl rest)

theorem joinUnderscored_from (s : List Char) :
    SublistForall₂ RaisedFrom (joinUnderscored s) s := by
  fun_induction joinUnderscored s with
  | case1 => exact .nil
  | case2 => exact refl _
  | case3 c d rest _ ih => exact .cons_right (.cons (.inr rfl) ih)
  | case4 c d rest _ ih => exact .cons (refl c) ih

theorem joinWords_from (afterBlank : Bool) (s : List Char) :
    SublistForall₂ RaisedFrom (joinWords afterBlank s) s := by
  fun_induction joinWords afterBlank s with
  | case1 => exact .nil
  | case2 _ c rest _ ih => exact .cons_right ih
  | case3 _ c rest _ ih => exact .cons (.ite _ c) ih

theorem from_of_raised {s t : List Char} (h : Forall₂ RaisedFrom t s) :
    SublistForall₂ RaisedFrom t s :=
  List.sublistForall₂_iff.mpr ⟨s, h, List.Sublist.refl s⟩

/-- From the second step on nothing is added. -/
theorem ofPlain_from (s : List Char) :
    SublistForall₂ RaisedFrom (ofPlain s) (blankUnsafe s) := by
  refine IsTrans.trans _ _ _ (from_of_raised (capitalize_raised _)) ?_
  refine IsTrans.trans _ _ _ (joinWords_from _ _) ?_
  refine IsTrans.trans _ _ _ (from_of_raised (raiseAfterDigit_raised _ _)) ?_
  refine IsTrans.trans _ _ _ (joinUnderscored_from _) ?_
  exact from_of_raised (raiseLeading_raised _)

/-- Each character of the first text comes from one of the second. -/
theorem exists_of_mem {s t : List Char} (h : SublistForall₂ RaisedFrom t s) {d : Char}
    (hd : d ∈ t) : ∃ c ∈ s, RaisedFrom d c := by
  induction h with
  | nil => contradiction
  | cons hfrom _ ih =>
      rcases List.mem_cons.mp hd with rfl | hd
      · exact ⟨_, List.mem_cons_self, hfrom⟩
      · obtain ⟨c, hc, hraised⟩ := ih hd
        exact ⟨c, List.mem_cons_of_mem _ hc, hraised⟩
  | cons_right _ ih =>
      obtain ⟨c, hc, hraised⟩ := ih hd
      exact ⟨c, List.mem_cons_of_mem _ hc, hraised⟩

/-! ## The characters of the identifier -/

/-- What the first step leaves of the start of a text: the blanks in front are left out,
and so is the character behind them if it cannot open an identifier. -/
def opening (s : List Char) : List Char :=
  match s.dropWhile Text.isBlank with
  | [] => []
  | c :: rest => if isStart c then c :: rest else rest

theorem opening_suffix (s : List Char) : opening s <:+ s := by
  have hsuffix := List.dropWhile_suffix (l := s) Text.isBlank
  unfold opening
  split
  case h_1 => exact List.nil_suffix
  case h_2 c rest hdrop =>
    rw [hdrop] at hsuffix
    split
    · exact hsuffix
    · exact (List.suffix_cons c rest).trans hsuffix

/-- There is one space at most where something has been left out. -/
theorem blankUnsafe_cases (s : List Char) :
    blankUnsafe s = blankParts (opening s) ∨ blankUnsafe s = ' ' :: blankParts (opening s) := by
  unfold blankUnsafe opening
  split
  case h_1 hdrop =>
    rw [hdrop]
    exact .inl rfl
  case h_2 hdrop =>
    rw [hdrop]
    exact .inr rfl
  case h_3 c rest _ hdrop =>
    rw [hdrop]
    dsimp only
    split
    · exact .inl rfl
    · exact .inr rfl
  case h_4 c rest _ hdrop =>
    rw [hdrop]
    dsimp only
    split
    · exact .inr rfl
    · exact .inr rfl

/-- Behind the first step there are only parts of an identifier and spaces. -/
theorem mem_blankUnsafe {s : List Char} {c : Char} (h : c ∈ blankUnsafe s) :
    (c ∈ s ∧ isPart c = true) ∨ c = ' ' := by
  have hblanked : c ∈ blankParts (opening s) ∨ c = ' ' := by
    rcases blankUnsafe_cases s with heq | heq
    · exact .inl (heq ▸ h)
    · rw [heq] at h
      exact (List.mem_cons.mp h).symm
  rcases hblanked with hblanked | hspace
  · obtain ⟨d, hd, rfl⟩ := List.mem_map.mp hblanked
    split
    case isTrue hpart => exact .inl ⟨(opening_suffix s).subset hd, hpart⟩
    case isFalse => exact .inr rfl
  · exact .inr hspace

theorem isBlank_of_mem_joinWords {afterBlank : Bool} {s : List Char} {c : Char}
    (h : c ∈ joinWords afterBlank s) : Text.isBlank c = false := by
  fun_induction joinWords afterBlank s with
  | case1 => contradiction
  | case2 _ _ _ _ ih => exact ih h
  | case3 afterBlank d rest hd ih =>
      rcases List.mem_cons.mp h with rfl | h
      · rw [(RaisedFrom.ite _ d).isBlank_eq]
        exact Bool.eq_false_of_not_eq_true hd
      · exact ih h

theorem isBlank_of_mem_ofPlain {s : List Char} {c : Char} (h : c ∈ ofPlain s) :
    Text.isBlank c = false := by
  obtain ⟨d, hd, hraised⟩ := exists_of_mem (from_of_raised (capitalize_raised _)) h
  rw [hraised.isBlank_eq, isBlank_of_mem_joinWords hd]

/-- An identifier is made of characters of the name that may stand in it, some of them
raised. -/
theorem exists_of_mem_ofPlain {s : List Char} {d : Char} (h : d ∈ ofPlain s) :
    isPart d = true ∧ ∃ c ∈ s, RaisedFrom d c := by
  obtain ⟨c, hc, hraised⟩ := exists_of_mem (ofPlain_from s) h
  rcases mem_blankUnsafe hc with ⟨hmem, hpart⟩ | rfl
  · exact ⟨hraised.isPart_eq.trans hpart, c, hmem, hraised⟩
  · have hblank := isBlank_of_mem_ofPlain h
    rw [hraised.isBlank_eq] at hblank
    contradiction

end SchemaDecls.Identifier
