import Mathlib.Data.List.Chain
import SchemaDecls.Proofs.PlainDigits
import SchemaDecls.Proofs.Raising

/-!
# Normal identifiers

The identifier of an identifier is the same again.  That is not plain to see, since the steps
disturb each other: where characters are left out, others come together that were apart, and
an earlier step might now find something to do.

What keeps it from that is a rule for neighbours.  Behind an underscore, a digit or a dollar
sign there is no small letter (`Settled`).  The third and the fourth step bring it about, and
the steps behind them keep it, because they only bring a letter next to another character by
raising it.  A text of parts of an identifier that keeps the rule and opens with a capital,
an underscore or a dollar sign is normal (`IsNormal`).  Every step leaves it as it is, and
an identifier that does not open with a digit is such a text (`ofName_normal`).
-/

namespace SchemaDecls.Identifier

/-! ## Neighbours -/

/-- A small letter behind this character is raised. -/
def raises (c : Char) : Bool := c == '_' || raisesNext c

/-- The second of two neighbours is no small letter if the first one raises what follows. -/
def Settled (raises : Char → Bool) (c d : Char) : Prop := raises c = true → d.isLower = false

instance (raises : Char → Bool) (c d : Char) : Decidable (Settled raises c d) :=
  inferInstanceAs (Decidable (_ → _))

/-- A raised character raises what the one does from which it comes. -/
theorem raises_eq_of_raised {c d : Char} (h : RaisedFrom d c) : raises d = raises c := by
  have hunderscore : (d == '_') = (c == '_') := h.beq_eq (by decide)
  have hdollar : (d == '$') = (c == '$') := h.beq_eq (by decide)
  rw [raises, raises, raisesNext, raisesNext, hunderscore, hdollar, h.isDecimalDigit_eq]

/-- A small letter that may have been raised has not been. -/
theorem eq_of_isLower_ite {p : Prop} [Decidable p] {c : Char}
    (h : (if p then c.toUpper else c).isLower = true) :
    ¬ p ∧ (if p then c.toUpper else c) = c := by
  split
  case isTrue hp =>
    rw [if_pos hp, isLower_toUpper] at h
    contradiction
  case isFalse hp => exact ⟨hp, rfl⟩

/-! ## The rule is brought about -/

/-- A small letter comes first behind the third step only if it did before. -/
theorem head?_of_joinUnderscored {s : List Char} {d : Char}
    (hd : d ∈ (joinUnderscored s).head?) (hlower : d.isLower = true) : s.head? = some d := by
  fun_cases joinUnderscored s with
  | case1 => contradiction
  | case2 c => simpa [joinUnderscored] using hd
  | case3 c e rest h =>
      rw [joinUnderscored, if_pos h] at hd
      obtain rfl : e.toUpper = d := by simpa using hd
      rw [isLower_toUpper] at hlower
      contradiction
  | case4 c e rest h =>
      rw [joinUnderscored, if_neg h] at hd
      simpa using hd

theorem joinUnderscored_settled (s : List Char) :
    (joinUnderscored s).IsChain (Settled (· == '_')) := by
  fun_induction joinUnderscored s with
  | case1 => exact .nil
  | case2 c => exact .singleton c
  | case3 c d rest h ih =>
      refine List.isChain_cons.mpr ⟨fun e _ hunderscore => ?_, ih⟩
      have hletter := isAlpha_toUpper_of_isLower h.2
      rw [beq_iff_eq.mp hunderscore] at hletter
      contradiction
  | case4 c d rest h ih =>
      refine List.isChain_cons.mpr ⟨fun e he hunderscore => ?_, ih⟩
      by_contra hlower
      have hlower' : e.isLower = true := Bool.eq_true_of_not_eq_false hlower
      obtain rfl : d = e := by simpa using head?_of_joinUnderscored he hlower'
      exact h ⟨beq_iff_eq.mp hunderscore, hlower'⟩

/-- A small letter comes first behind the fourth step only if it did before, and there was no
digit in front of it. -/
theorem head?_of_raiseAfterDigit {afterDigit : Bool} {s : List Char} {d : Char}
    (hd : d ∈ (raiseAfterDigit afterDigit s).head?) (hlower : d.isLower = true) :
    afterDigit = false ∧ s.head? = some d := by
  cases s with
  | nil => contradiction
  | cons c rest =>
      obtain rfl : (if afterDigit then c.toUpper else c) = d := by
        simpa [raiseAfterDigit] using hd
      obtain ⟨hdigit, hsame⟩ := eq_of_isLower_ite hlower
      exact ⟨Bool.eq_false_of_not_eq_true hdigit, congrArg some hsame.symm⟩

theorem raiseAfterDigit_settled (afterDigit : Bool) {s : List Char}
    (h : s.IsChain (Settled (· == '_'))) :
    (raiseAfterDigit afterDigit s).IsChain (Settled raises) := by
  induction s generalizing afterDigit with
  | nil => exact .nil
  | cons c rest ih =>
      obtain ⟨hnext, hrest⟩ := List.isChain_cons.mp h
      refine List.isChain_cons.mpr ⟨fun d hd hraises => ?_, ih _ hrest⟩
      by_contra hlower
      obtain ⟨hdigit, hhead⟩ :=
        head?_of_raiseAfterDigit hd (Bool.eq_true_of_not_eq_false hlower)
      rw [raises_eq_of_raised (.ite _ c), raises, hdigit, Bool.or_false] at hraises
      exact hlower (hnext d hhead hraises)

/-! ## The rule is kept -/

/-- A small letter comes first behind the fifth step only if it did before, and there was no
blank in front of it. -/
theorem head?_of_joinWords {afterBlank : Bool} {s : List Char} {d : Char}
    (hd : d ∈ (joinWords afterBlank s).head?) (hlower : d.isLower = true) :
    afterBlank = false ∧ s.head? = some d := by
  induction s generalizing afterBlank with
  | nil => contradiction
  | cons c rest ih =>
      rw [joinWords] at hd
      split at hd
      case isTrue =>
        exact absurd (ih hd).1 Bool.noConfusion
      case isFalse =>
        obtain rfl : (if afterBlank then c.toUpper else c) = d := by simpa using hd
        obtain ⟨hblank, hsame⟩ := eq_of_isLower_ite hlower
        exact ⟨Bool.eq_false_of_not_eq_true hblank, congrArg some hsame.symm⟩

theorem joinWords_settled (afterBlank : Bool) {s : List Char}
    (h : s.IsChain (Settled raises)) : (joinWords afterBlank s).IsChain (Settled raises) := by
  fun_induction joinWords afterBlank s with
  | case1 => exact .nil
  | case2 _ c rest _ ih => exact ih (List.isChain_cons.mp h).2
  | case3 _ c rest _ ih =>
      obtain ⟨hnext, hrest⟩ := List.isChain_cons.mp h
      refine List.isChain_cons.mpr ⟨fun d hd hraises => ?_, ih hrest⟩
      by_contra hlower
      obtain ⟨-, hhead⟩ := head?_of_joinWords hd (Bool.eq_true_of_not_eq_false hlower)
      rw [raises_eq_of_raised (.ite _ c)] at hraises
      exact hlower (hnext d hhead hraises)

theorem capitalize_settled {s : List Char} (h : s.IsChain (Settled raises)) :
    (capitalize s).IsChain (Settled raises) := by
  cases s with
  | nil => exact .nil
  | cons c rest =>
      obtain ⟨hnext, hrest⟩ := List.isChain_cons.mp h
      refine List.isChain_cons.mpr ⟨fun d hd hraises => hnext d hd ?_, hrest⟩
      rwa [raises_eq_of_raised (.inr rfl)] at hraises

theorem ofPlain_settled (s : List Char) : (ofPlain s).IsChain (Settled raises) :=
  capitalize_settled (joinWords_settled _ (raiseAfterDigit_settled _ (joinUnderscored_settled _)))

/-! ## Normal texts -/

/-- A text of parts of an identifier, none of which has a decomposition, that opens with a
capital, an underscore or a dollar sign, and in which no small letter is to be raised. -/
structure IsNormal (s : List Char) : Prop where
  parts : ∀ c ∈ s, isPart c = true
  undecomposed : ∀ c ∈ s, Text.decompose c = [c]
  opens : ∃ c, s.head? = some c ∧ (c.isUpper = true ∨ c = '_' ∨ c = '$')
  settled : s.IsChain (Settled raises)

/-- A capital, an underscore or a dollar sign opens an identifier and is no small letter. -/
theorem isStart_of_opens {c : Char} (h : c.isUpper = true ∨ c = '_' ∨ c = '$') :
    isStart c = true ∧ c.isLower = false := by
  rcases h with hupper | rfl | rfl
  · exact ⟨isStart_of_isAlpha (isAlpha_of_isUpper hupper), isLower_of_isUpper hupper⟩
  · decide
  · decide

theorem isCombining_of_isPart {c : Char} (h : isPart c = true) : Text.isCombining c = false := by
  rcases Bool.or_eq_true_iff.mp h with hstart | hdigit
  · have hascii := (toNat_of_isStart hstart).1
    apply Text.inRanges_eq_false_of_forall_lt
    intro r hr
    have hbeyond : 0x300 ≤ r.1 := by
      revert r
      decide +kernel
    omega
  · exact Text.isCombining_of_isDecimalDigit hdigit

/-! ## Each step leaves a normal text as it is -/

theorem blankUnsafe_eq_self {s : List Char} (hparts : ∀ c ∈ s, isPart c = true)
    (hstart : ∀ c ∈ s.head?, isStart c = true) : blankUnsafe s = s := by
  have hkept : blankParts s = s := by
    have hsame : ∀ c ∈ s, (if isPart c then c else ' ') = id c := fun c hc =>
      if_pos (hparts c hc)
    rw [blankParts, List.map_congr_left hsame, List.map_id]
  cases s with
  | nil => rfl
  | cons c rest =>
      have hblank := isBlank_of_isPart (hparts c List.mem_cons_self)
      have hc := hstart c rfl
      simp [blankUnsafe, hblank, hc, hkept]

theorem raiseLeading_eq_self {s : List Char} (h : s.IsChain (Settled (· == '_'))) :
    raiseLeading s = s := by
  fun_cases raiseLeading s with
  | case1 c rest =>
      have hlower := (List.isChain_cons_cons.mp h).1 rfl
      simp [hlower]
  | case2 => rfl

theorem joinUnderscored_eq_self {s : List Char} (h : s.IsChain (Settled (· == '_'))) :
    joinUnderscored s = s := by
  fun_induction joinUnderscored s with
  | case1 => rfl
  | case2 => rfl
  | case3 c d rest hjoined _ =>
      have hlower := (List.isChain_cons_cons.mp h).1 (beq_iff_eq.mpr hjoined.1)
      rw [hjoined.2] at hlower
      contradiction
  | case4 c d rest _ ih => rw [ih (List.isChain_cons_cons.mp h).2]

theorem raiseAfterDigit_eq_self {afterDigit : Bool} {s : List Char}
    (hfirst : ∀ c ∈ s.head?, afterDigit = true → c.isLower = false)
    (h : s.IsChain (Settled raises)) : raiseAfterDigit afterDigit s = s := by
  induction s generalizing afterDigit with
  | nil => rfl
  | cons c rest ih =>
      obtain ⟨hnext, hrest⟩ := List.isChain_cons.mp h
      have hc : (if afterDigit then c.toUpper else c) = c := by
        split
        case isTrue hdigit =>
          exact toUpper_eq_self (hfirst c rfl hdigit)
        case isFalse => rfl
      have hraises : ∀ d ∈ rest.head?, raisesNext c = true → d.isLower = false :=
        fun d hd hraised => hnext d hd (by simp [raises, hraised])
      rw [raiseAfterDigit, hc, ih hraises hrest]

theorem joinWords_eq_self {s : List Char} (h : ∀ c ∈ s, Text.isBlank c = false) :
    joinWords false s = s := by
  induction s with
  | nil => rfl
  | cons c rest ih =>
      obtain ⟨hc, hrest⟩ := List.forall_mem_cons.mp h
      simp [joinWords, hc, ih hrest]

theorem capitalize_eq_self {s : List Char} (h : ∀ c ∈ s.head?, c.isLower = false) :
    capitalize s = s := by
  cases s with
  | nil => rfl
  | cons c rest =>
      rw [capitalize, toUpper_eq_self (h c rfl)]

/-- A normal text is its own identifier. -/
theorem IsNormal.ofPlain_eq_self {s : List Char} (h : IsNormal s) :
    ofPlain (Text.plain s) = s := by
  have hplain : Text.plain s = s :=
    Text.plain_eq_self h.undecomposed fun c hc => isCombining_of_isPart (h.parts c hc)
  have hopens : ∀ c ∈ s.head?, isStart c = true ∧ c.isLower = false := by
    obtain ⟨c, hhead, hc⟩ := h.opens
    intro d hd
    obtain rfl : c = d := Option.some_inj.mp (hhead.symm.trans hd)
    exact isStart_of_opens hc
  have hunderscores : s.IsChain (Settled (· == '_')) :=
    h.settled.imp fun _ _ hsettled hunderscore => hsettled (by simp [raises, hunderscore])
  rw [hplain, ofPlain, blankUnsafe_eq_self h.parts fun c hc => (hopens c hc).1,
    raiseLeading_eq_self hunderscores, joinUnderscored_eq_self hunderscores,
    raiseAfterDigit_eq_self (fun _ _ hfalse => Bool.noConfusion hfalse) h.settled,
    joinWords_eq_self fun c hc => isBlank_of_isPart (h.parts c hc),
    capitalize_eq_self fun c hc => (hopens c hc).2]

/-! ## Identifiers are normal -/

/-- What stands in an identifier has no decomposition. -/
theorem decompose_of_mem_ofPlain {s : List Char} {d : Char} (h : d ∈ ofPlain (Text.plain s)) :
    Text.decompose d = [d] := by
  obtain ⟨hpart, c, hc, hraised⟩ := exists_of_mem_ofPlain h
  rcases Bool.or_eq_true_iff.mp hpart with hstart | hdigit
  · exact Text.decompose_of_lt (by have := (toNat_of_isStart hstart).1; omega)
  · -- A digit is not raised, and so it is one of the plain text.
    have halpha : d.isAlpha = false := by
      by_contra halpha
      have hstart := isStart_of_isAlpha (Bool.eq_true_of_not_eq_false halpha)
      rw [isDecimalDigit_of_isStart hstart] at hdigit
      contradiction
    obtain rfl := hraised.eq_of_not_isAlpha halpha
    exact Text.decompose_of_mem_plain hc hdigit

/-- The first character of an identifier is raised. -/
theorem opens_of_ofPlain {s : List Char} {d : Char} (h : (ofPlain s).head? = some d)
    (hstart : isStart d = true) : d.isUpper = true ∨ d = '_' ∨ d = '$' := by
  unfold ofPlain at h
  generalize joinWords false _ = joined at h
  cases joined with
  | nil => contradiction
  | cons c rest =>
      obtain rfl : c.toUpper = d := Option.some_inj.mp h
      simpa [isStart, isAlpha_iff, isLower_toUpper, or_assoc] using hstart

theorem isNormal_ofPlain {s : List Char} {d : Char}
    (h : (ofPlain (Text.plain s)).head? = some d) (hdigit : Text.isDecimalDigit d = false) :
    IsNormal (ofPlain (Text.plain s)) where
  parts _ hc := (exists_of_mem_ofPlain hc).1
  undecomposed _ hc := decompose_of_mem_ofPlain hc
  opens := by
    have hpart := (exists_of_mem_ofPlain (List.mem_of_mem_head? h)).1
    refine ⟨d, h, opens_of_ofPlain h ?_⟩
    rw [isStart_eq_not_of_isPart hpart, hdigit, Bool.not_false]
  settled := ofPlain_settled _

/-- A text that opens with a decimal digit. -/
def OpensWithDigit (s : List Char) : Prop :=
  ∃ c, s.head? = some c ∧ Text.isDecimalDigit c = true

/-- A normal text is its own identifier.  Every identifier that has a character and does not
open with a digit is normal, and so it is its own identifier. -/
theorem ofName_normal :
    (∀ s : String, IsNormal s.toList → ofName s = s) ∧
      (∀ name, ofName name = "" ∨ OpensWithDigit (ofName name).toList ∨
        IsNormal (ofName name).toList) ∧
      ∀ name, ¬ OpensWithDigit (ofName name).toList → ofName (ofName name) = ofName name := by
  have hfixed : ∀ s : String, IsNormal s.toList → ofName s = s := by
    intro s hs
    rw [ofName, hs.ofPlain_eq_self, String.ofList_toList]
  have hform : ∀ name, ofName name = "" ∨ OpensWithDigit (ofName name).toList ∨
      IsNormal (ofName name).toList := by
    intro name
    cases hhead : (ofName name).toList.head? with
    | none =>
        exact .inl (String.toList_eq_nil_iff.mp (List.head?_eq_none_iff.mp hhead))
    | some c =>
        cases hdigit : Text.isDecimalDigit c with
        | true => exact .inr (.inl ⟨c, hhead, hdigit⟩)
        | false =>
            rw [toList_ofName] at hhead ⊢
            exact .inr (.inr (isNormal_ofPlain hhead hdigit))
  refine ⟨hfixed, hform, fun name hopens => ?_⟩
  rcases hform name with hempty | hdigit | hnormal
  · rw [hempty, ofName_empty]
  · contradiction
  · exact hfixed _ hnormal

/-- Three letters are raised on the way, by an underscore, a digit and a dollar sign. -/
theorem ofName_size_normal :
    IsNormal "_Size2X$Y".toList ∧ ofName "_Size2X$Y" = "_Size2X$Y" ∧
      ¬ OpensWithDigit (ofName "_size 2x $y").toList ∧
        ofName (ofName "_size 2x $y") = ofName "_size 2x $y" := by
  obtain ⟨hfixed, -, hidempotent⟩ := ofName_normal
  have hascii : ("_Size2X$Y".toList.all fun c => c.toNat < 0xA0) = true := by decide
  have hnormal : IsNormal "_Size2X$Y".toList :=
    { parts := List.all_eq_true.mp (by decide)
      undecomposed := fun c hc =>
        Text.decompose_of_lt (of_decide_eq_true (List.all_eq_true.mp hascii c hc))
      opens := ⟨'_', rfl, .inr (.inl rfl)⟩
      settled := by decide }
  have hopens : ¬ OpensWithDigit (ofName "_size 2x $y").toList := by
    have hname : ofName "_size 2x $y" = "_Size2X$Y" := by decide +kernel
    rw [hname]
    rintro ⟨c, hhead, hdigit⟩
    obtain rfl : '_' = c := Option.some_inj.mp hhead
    contradiction
  exact ⟨hnormal, hfixed _ hnormal, hopens, hidempotent _ hopens⟩

end SchemaDecls.Identifier
