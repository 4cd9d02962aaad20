import Mathlib.Data.List.TakeWhile
import SchemaDecls.Proofs.Raising

/-!
# How an identifier opens

The identifier of a name consists of characters that may stand in an identifier, but it need
not open with one that may open it.  A digit at the start of a name is left out, one digit
only.  What follows it moves up, digit or not: `"2023 report"` becomes `"023Report"`.

Of all that the steps do, what is first is settled by the first of them.  The others keep
the class of the first character that may stand in an identifier, letter or digit
(`firstClass`), although they may replace the character.  So it can be read off the plain
text of the name where its identifier opens (`lead?`), and whether it opens as it should
(`isIdentifier_ofName_iff`).
-/

namespace SchemaDecls.Identifier

/-- The text is an identifier. -/
def IsIdentifier (s : List Char) : Prop :=
  ∃ c rest, s = c :: rest ∧ isStart c = true ∧ ∀ d ∈ rest, isPart d = true

/-- A text of parts of an identifier is one if it opens as one. -/
theorem isIdentifier_iff {s : List Char} (h : ∀ c ∈ s, isPart c = true) :
    IsIdentifier s ↔ s.head?.map isStart = some true := by
  cases s with
  | nil => simp [IsIdentifier]
  | cons c rest =>
      constructor
      · rintro ⟨_, _, heq, hstart, -⟩
        obtain ⟨rfl, rfl⟩ := List.cons.inj heq
        rw [List.head?_cons, Option.map_some, hstart]
      · intro hstart
        refine ⟨c, rest, rfl, ?_, fun d hd => h d (List.mem_cons_of_mem c hd)⟩
        simpa using hstart

/-! ## The class of the first part -/

/-- Whether the first character that may stand in an identifier may also open it. -/
def firstClass (s : List Char) : Option Bool := (s.find? isPart).map isStart

theorem firstClass_cons_of_isPart {c : Char} (h : isPart c = true) (s : List Char) :
    firstClass (c :: s) = some (isStart c) := by
  simp [firstClass, h]

theorem firstClass_cons_of_not_isPart {c : Char} (h : isPart c = false) (s : List Char) :
    firstClass (c :: s) = firstClass s := by
  simp [firstClass, h]

theorem firstClass_cons_congr (c : Char) {s t : List Char} (h : firstClass t = firstClass s) :
    firstClass (c :: t) = firstClass (c :: s) := by
  cases hc : isPart c with
  | true => rw [firstClass_cons_of_isPart hc, firstClass_cons_of_isPart hc]
  | false => rw [firstClass_cons_of_not_isPart hc, firstClass_cons_of_not_isPart hc, h]

/-- Raised characters are of the same class. -/
theorem firstClass_of_raised {s t : List Char} (h : List.Forall₂ RaisedFrom t s) :
    firstClass t = firstClass s := by
  induction h with
  | nil => rfl
  | @cons d c t s hraised _ ih =>
      cases hc : isPart c with
      | true =>
          rw [firstClass_cons_of_isPart hc, firstClass_cons_of_isPart (hraised.isPart_eq.trans hc),
            hraised.isStart_eq]
      | false =>
          rw [firstClass_cons_of_not_isPart hc,
            firstClass_cons_of_not_isPart (hraised.isPart_eq.trans hc), ih]

theorem firstClass_blankParts (s : List Char) : firstClass (blankParts s) = firstClass s := by
  induction s with
  | nil => rfl
  | cons c rest ih =>
      cases hc : isPart c with
      | true =>
          have hkept : blankParts (c :: rest) = c :: blankParts rest := by simp [blankParts, hc]
          rw [hkept, firstClass_cons_congr c ih]
      | false =>
          have hspaced : blankParts (c :: rest) = ' ' :: blankParts rest := by
            simp [blankParts, hc]
          rw [hspaced, firstClass_cons_of_not_isPart (by decide), ih,
            firstClass_cons_of_not_isPart hc]

theorem firstClass_blankUnsafe (s : List Char) :
    firstClass (blankUnsafe s) = firstClass (opening s) := by
  rcases blankUnsafe_cases s with heq | heq
  · rw [heq, firstClass_blankParts]
  · rw [heq, firstClass_cons_of_not_isPart (by decide), firstClass_blankParts]

/-- An underscore makes room for a letter only. -/
theorem firstClass_joinUnderscored (s : List Char) :
    firstClass (joinUnderscored s) = firstClass s := by
  fun_induction joinUnderscored s with
  | case1 => rfl
  | case2 => rfl
  | case3 c d rest h _ =>
      have hd := isStart_of_isAlpha (isAlpha_toUpper_of_isLower h.2)
      rw [firstClass_cons_of_isPart (isPart_of_isStart hd), hd, h.1,
        firstClass_cons_of_isPart (by decide)]
      decide
  | case4 c d rest _ ih => exact firstClass_cons_congr c ih

theorem firstClass_joinWords (afterBlank : Bool) (s : List Char) :
    firstClass (joinWords afterBlank s) = firstClass s := by
  fun_induction joinWords afterBlank s with
  | case1 => rfl
  | case2 _ c rest h ih => rw [ih, firstClass_cons_of_not_isPart (isPart_of_isBlank h)]
  | case3 afterBlank c rest _ ih =>
      rw [firstClass_cons_congr _ ih]
      exact firstClass_of_raised (.cons (.ite _ c) (List.forall₂_refl rest))

/-- The first step settles how the identifier opens. -/
theorem firstClass_ofPlain (s : List Char) : firstClass (ofPlain s) = firstClass (opening s) := by
  rw [ofPlain, firstClass_of_raised (capitalize_raised _), firstClass_joinWords,
    firstClass_of_raised (raiseAfterDigit_raised _ _), firstClass_joinUnderscored,
    firstClass_of_raised (raiseLeading_raised _), firstClass_blankUnsafe]

/-! ## Names with a letter -/

/-- The character of a plain name from which the first one of its identifier comes: blanks
in front are passed over, and a single character if it cannot open an identifier. -/
def lead? (s : List Char) : Option Char := (opening s).find? isPart

/-- What can open an identifier is not left out with what cannot. -/
theorem mem_opening {s : List Char} {c : Char} (hc : c ∈ s) (h : isStart c = true) :
    c ∈ opening s := by
  have hdrop : c ∈ s.dropWhile Text.isBlank := by
    rw [← List.takeWhile_append_dropWhile (p := Text.isBlank) (l := s)] at hc
    rcases List.mem_append.mp hc with hblank | hdrop
    · have hpart := isPart_of_isBlank (List.mem_takeWhile_imp hblank)
      rw [isPart_of_isStart h] at hpart
      contradiction
    · exact hdrop
  unfold opening
  split
  case h_1 hnil =>
    rw [hnil] at hdrop
    contradiction
  case h_2 d rest hcons =>
    rw [hcons] at hdrop
    split
    case isTrue => exact hdrop
    case isFalse hstart =>
      rcases List.mem_cons.mp hdrop with rfl | hrest
      · exact absurd h hstart
      · exact hrest

theorem head?_ofPlain (s : List Char) :
    (ofPlain s).head?.map isStart = (lead? s).map isStart := by
  have hfirst : (ofPlain s).head? = (ofPlain s).find? isPart := by
    cases hs : ofPlain s with
    | nil => rfl
    | cons c rest =>
        have hc : isPart c = true := (exists_of_mem_ofPlain (hs ▸ List.mem_cons_self)).1
        simp [hc]
  rw [hfirst]
  exact firstClass_ofPlain s

/-- The identifier of a name with a letter, an underscore or a dollar sign has characters,
all of them such as may stand in an identifier.  It is one unless the character from which
its first one comes is a decimal digit. -/
theorem isIdentifier_ofName_iff {name : String}
    (h : ∃ c ∈ Text.plain name.toList, isStart c = true) :
    ofName name ≠ "" ∧ (∀ c ∈ (ofName name).toList, isPart c = true) ∧
      ∃ c, lead? (Text.plain name.toList) = some c ∧
        (IsIdentifier (ofName name).toList ↔ Text.isDecimalDigit c = false) := by
  obtain ⟨c, hc, hstart⟩ := h
  have hparts : ∀ d ∈ (ofName name).toList, isPart d = true := by
    intro d hd
    rw [toList_ofName] at hd
    exact (exists_of_mem_ofPlain hd).1
  -- The letter itself need not come first, but something does.
  obtain ⟨d, hlead⟩ : ∃ d, lead? (Text.plain name.toList) = some d :=
    Option.isSome_iff_exists.mp
      (List.find?_isSome.mpr ⟨c, mem_opening hc hstart, isPart_of_isStart hstart⟩)
  have hhead : (ofName name).toList.head?.map isStart = some (isStart d) := by
    rw [toList_ofName, head?_ofPlain, hlead, Option.map_some]
  refine ⟨?_, hparts, d, hlead, ?_⟩
  · intro hempty
    rw [hempty] at hhead
    contradiction
  · rw [isIdentifier_iff hparts, hhead, Option.some_inj,
      isStart_eq_not_of_isPart (List.find?_some hlead), Bool.not_eq_true']

theorem ofName_report_isIdentifier :
    'r' ∈ Text.plain "2023 report".toList ∧ isStart 'r' = true ∧
      ofName "2023 report" ≠ "" ∧ (∀ c ∈ (ofName "2023 report").toList, isPart c = true) ∧
        ∃ c, lead? (Text.plain "2023 report".toList) = some c ∧
          (IsIdentifier (ofName "2023 report").toList ↔ Text.isDecimalDigit c = false) := by
  have hmem : 'r' ∈ Text.plain "2023 report".toList := by decide +kernel
  exact ⟨hmem, by decide, isIdentifier_ofName_iff ⟨'r', hmem, by decide⟩⟩

/-- Of the digits in front of a name only the first one is left out. -/
theorem ofName_report_opens_with_digit :
    'r' ∈ Text.plain "2023 report".toList ∧ isStart 'r' = true ∧
      ofName "2023 report" = "023Report" ∧ ¬ IsIdentifier (ofName "2023 report").toList := by
  have hname : ofName "2023 report" = "023Report" := by decide +kernel
  refine ⟨by decide +kernel, by decide, hname, ?_⟩
  rw [hname]
  rintro ⟨c, rest, heq, hstart, -⟩
  obtain ⟨rfl, -⟩ := List.cons.inj heq
  contradiction

end SchemaDecls.Identifier
