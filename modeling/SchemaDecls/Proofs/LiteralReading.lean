import SchemaDecls.Proofs.ArraySuffix

/-!
# Literals are read back

The text of a literal without floating-point numbers is JSON, and its value is read back from it
with the entries of dictionaries in their order (`Value.ofJson?_literal`).  The reader follows
the rules of JSON and not the way in which literals are written: it passes over blanks, and it
knows all escapes of strings.

A value is taken from the front of a text, whatever follows it there (`Json.Takes`).  Strings,
lists and dictionaries say themselves where they end.  An integer does not, and what follows it
must not go on as a number does.  Since this is all that is asked of what follows, values can be
read within one another: items are followed by a comma or a bracket.

The reader recurses on the depth to which containers are nested.  As each of them has two
brackets around it, the length of the text is depth enough.
-/

namespace SchemaDecls

/-! ## Integers -/

namespace Numeral

/-- The natural number that digits stand for.  There is no zero in front of other digits. -/
def natural? (digits : List Char) : Option Nat :=
  if digits ≠ [] ∧ digits.all Char.isDigit ∧ (digits.head? = some '0' → digits.length = 1) then
    some (Nat.ofDigitChars 10 digits 0)
  else none

/-- The integer that digits stand for, behind a minus or not. -/
def integer? : List Char → Option Int
  | '-' :: digits => (natural? digits).map fun n : Nat => -(n : Int)
  | digits => (natural? digits).map fun n : Nat => (n : Int)

/-- Only zero is written with a zero in front. -/
theorem eq_zero_of_head?_digitsOf {n : Nat} (h : (digitsOf n).head? = some '0') : n = 0 := by
  induction n using Nat.strongRecOn with
  | ind n ih =>
      unfold digitsOf at h ih
      rw [Nat.toDigits_eq_if (by decide)] at h
      split at h
      next hn =>
        have hdigit : ∀ d < 10, [d.digitChar].head? = some '0' → d = 0 := by decide
        exact hdigit n hn h
      next hn =>
        rw [List.head?_append_of_ne_nil _ Nat.toDigits_ne_nil] at h
        have hquotient := ih (n / 10) (by omega) h
        omega

theorem natural?_digitsOf (n : Nat) : natural? (digitsOf n) = some n := by
  have hdigits : ∀ c ∈ digitsOf n, c.isDigit = true := fun c hc =>
    Nat.isDigit_of_mem_toDigits (by decide) (by decide) hc
  have hzero : (digitsOf n).head? = some '0' → (digitsOf n).length = 1 := by
    intro hhead
    rw [eq_zero_of_head?_digitsOf hhead]
    rfl
  rw [natural?, if_pos ⟨Nat.toDigits_ne_nil, List.all_eq_true.mpr hdigits, hzero⟩, digitsOf,
    Nat.ofDigitChars_ten_toDigits]

theorem integer?_integer (n : Int) : integer? (integer n) = some n := by
  unfold integer
  split
  next hn =>
    rw [integer?, natural?_digitsOf, Option.map_some]
    exact congrArg some (by omega)
  next hn =>
    have hnoMinus : ∀ rest, digitsOf n.natAbs ≠ '-' :: rest := by
      intro rest heq
      have hminus : '-'.isDigit = true :=
        Nat.isDigit_of_mem_toDigits (by decide) (by decide) (heq ▸ List.mem_cons_self)
      contradiction
    unfold integer?
    split
    next digits heq => exact absurd heq (hnoMinus digits)
    next =>
      rw [natural?_digitsOf, Option.map_some]
      exact congrArg some (by omega)

/-- Digits, points and signs are no control characters. -/
theorem toNat_of_isNumeric {c : Char} (h : isNumeric c = true) : 0x20 ≤ c.toNat := by
  have hval : c.val.toNat = c.toNat := rfl
  simp only [isNumeric, Char.isDigit, Bool.or_eq_true, Bool.and_eq_true, decide_eq_true_eq,
    UInt32.le_iff_toNat_le, ge_iff_le, hval, List.mem_cons, List.not_mem_nil, or_false] at h
  rcases h with ⟨hlow, -⟩ | rfl | rfl | rfl | rfl
  · exact Nat.le_trans (by decide) hlow
  all_goals decide

theorem exists_integer_eq_cons (n : Int) :
    ∃ c rest, integer n = c :: rest ∧ isNumeric c = true := by
  have hne : integer n ≠ [] := by
    unfold integer
    split
    · exact List.cons_ne_nil _ _
    · exact Nat.toDigits_ne_nil
  obtain ⟨c, rest, heq⟩ := List.exists_cons_of_ne_nil hne
  exact ⟨c, rest, heq, isNumeric_of_mem_integer (heq ▸ List.mem_cons_self)⟩

end Numeral

/-! ## Texts with commas between them -/

namespace Value

theorem commaSeparated_cons_cons (first second : List Char) (more : List (List Char)) :
    commaSeparated (first :: second :: more) =
      first ++ ',' :: commaSeparated (second :: more) := by
  simp [commaSeparated]

theorem length_le_commaSeparated (texts : List (List Char)) :
    texts.length ≤ (commaSeparated texts).length + 1 := by
  induction texts with
  | nil => exact Nat.zero_le _
  | cons first texts ih =>
      cases texts with
      | nil => simp
      | cons second more =>
          rw [commaSeparated_cons_cons]
          simp only [List.length_cons, List.length_append] at ih ⊢
          omega

theorem length_le_of_mem {text : List Char} {texts : List (List Char)} (h : text ∈ texts) :
    text.length ≤ (commaSeparated texts).length := by
  induction texts with
  | nil => contradiction
  | cons first texts ih =>
      cases texts with
      | nil =>
          obtain rfl := List.mem_singleton.mp h
          simp [commaSeparated]
      | cons second more =>
          rw [commaSeparated_cons_cons, List.length_append, List.length_cons]
          rcases List.mem_cons.mp h with rfl | h
          · exact Nat.le_add_right _ _
          · have hmore := ih h
            omega

theorem forall_mem_commaSeparated {p : Char → Prop} (hcomma : p ',') {texts : List (List Char)}
    (h : ∀ text ∈ texts, ∀ c ∈ text, p c) : ∀ c ∈ commaSeparated texts, p c := by
  induction texts with
  | nil => exact fun c hc => absurd hc List.not_mem_nil
  | cons first texts ih =>
      obtain ⟨hfirst, htexts⟩ := List.forall_mem_cons.mp h
      cases texts with
      | nil => simpa [commaSeparated] using hfirst
      | cons second more =>
          rw [commaSeparated_cons_cons]
          exact List.forall_mem_append.mpr
            ⟨hfirst, List.forall_mem_cons.mpr ⟨hcomma, ih htexts⟩⟩

end Value

/-! ## Reading JSON -/

namespace Json

/-- Takes something from the front of a text, and gives what follows it. -/
abbrev Reader (α : Type) := List Char → Option (α × List Char)

/-- The character may stand between the parts of a text without a meaning. -/
def isBlank (c : Char) : Bool := c ∈ [' ', '\t', '\n', '\r']

/-- The text without the blanks in front. -/
def skipBlanks (text : List Char) : List Char := text.dropWhile isBlank

section

variable {α : Type}

/-- Reads at most so many items, and at least one, with commas between them, up to the bracket
that closes them. -/
def readItems (close : Char) (readItem : Reader α) : Nat → Reader (List α)
  | 0, _ => none
  | count + 1, text =>
      (readItem text).bind fun r =>
        match skipBlanks r.2 with
        | [] => none
        | c :: rest =>
            if c = close then some ([r.1], rest)
            else if c = ',' then
              (readItems close readItem count rest).map fun more => (r.1 :: more.1, more.2)
            else none

/-- Reads any number of items.  There are no more of them than there are characters. -/
def readSequence (close : Char) (readItem : Reader α) (text : List Char) :
    Option (List α × List Char) :=
  match skipBlanks text with
  | [] => none
  | c :: rest =>
      if c = close then some ([], rest) else readItems close readItem text.length text

/-- Reads a key and what stands behind the colon. -/
def readEntry (readItem : Reader α) (text : List Char) : Option ((String × α) × List Char) :=
  match skipBlanks text with
  | '"' :: rest =>
      (Text.unquote rest).bind fun key =>
        match skipBlanks key.2 with
        | ':' :: rest => (readItem rest).map fun r => ((String.ofList key.1, r.1), r.2)
        | _ => none
  | _ => none

end

/-- The values that have names. -/
def words : List (List Char × Value) :=
  [(['n', 'u', 'l', 'l'], .null), (['t', 'r', 'u', 'e'], .bool true),
    (['f', 'a', 'l', 's', 'e'], .bool false)]

/-- Reads the name of a value. -/
def readWord (text : List Char) : Option (Value × List Char) :=
  (words.find? fun word => word.1.isPrefixOf text).map fun word =>
    (word.2, text.drop word.1.length)

/-- Reads an integer, up to where no number goes on. -/
def readInteger (text : List Char) : Option (Value × List Char) :=
  (Numeral.integer? (text.takeWhile Numeral.isNumeric)).map fun n =>
    (.int n, text.dropWhile Numeral.isNumeric)

/-- Reads a value in which containers are nested to less than this depth. -/
def readUpTo : Nat → Reader Value
  | 0, _ => none
  | depth + 1, text =>
      match skipBlanks text with
      | '"' :: rest => (Text.unquote rest).map fun r => (.str (String.ofList r.1), r.2)
      | '[' :: rest => (readSequence ']' (readUpTo depth) rest).map fun r => (.list r.1, r.2)
      | '\x7b' :: rest =>
          (readSequence '\x7d' (readEntry (readUpTo depth)) rest).map fun r => (.dict r.1, r.2)
      | text => (readWord text).or (readInteger text)

end Json

/-- Reads a value that takes up the whole of a text. -/
def Value.ofJson? (text : List Char) : Option Value :=
  (Json.readUpTo (text.length + 1) text).bind fun r =>
    if Json.skipBlanks r.2 = [] then some r.1 else none

example : Value.ofJson? " [-10, \"\\u0041\"]".toList = some (.list [.int (-10), .str "A"]) := by
  rfl

/-! ## What a reader takes -/

namespace Json

/-- No number goes on here. -/
def EndsNumber (rest : List Char) : Prop := ∀ c ∈ rest.head?, Numeral.isNumeric c = false

/-- The text begins with something other than a blank and this bracket. -/
def OpensOtherThan (close : Char) (text : List Char) : Prop :=
  ∃ c rest, text = c :: rest ∧ isBlank c = false ∧ c ≠ close

/-- The reader takes this from the front whenever the text stands there, unless it is followed
by what a number would go on with. -/
def Takes {α : Type} (read : Reader α) (text : List Char) (a : α) : Prop :=
  ∀ rest, EndsNumber rest → read (text ++ rest) = some (a, rest)

theorem skipBlanks_cons {c : Char} (h : isBlank c = false) (rest : List Char) :
    skipBlanks (c :: rest) = c :: rest := by
  simp [skipBlanks, h]

theorem endsNumber_cons {c : Char} (h : Numeral.isNumeric c = false) (rest : List Char) :
    EndsNumber (c :: rest) := by
  simpa [EndsNumber] using h

section

variable {α : Type} {close : Char} {read : Reader α} {write : α → List Char}

theorem readItems_commaSeparated (hcomma : close ≠ ',') (hblank : isBlank close = false)
    (hclose : Numeral.isNumeric close = false) {first : α} {more : List α}
    (h : ∀ a ∈ first :: more, Takes read (write a) a) {count : Nat} (hcount : more.length < count)
    (rest : List Char) :
    readItems close read count (Value.commaSeparated ((first :: more).map write) ++ close :: rest) =
      some (first :: more, rest) := by
  induction more generalizing first count with
  | nil =>
      obtain ⟨count, rfl⟩ := Nat.exists_eq_add_one_of_ne_zero (Nat.ne_zero_of_lt hcount)
      have hfirst := h first List.mem_cons_self (close :: rest) (endsNumber_cons hclose rest)
      simp [Value.commaSeparated, readItems, hfirst, skipBlanks_cons hblank]
  | cons second more ih =>
      obtain ⟨count, rfl⟩ := Nat.exists_eq_add_one_of_ne_zero (Nat.ne_zero_of_lt hcount)
      obtain ⟨hfirst, hmore⟩ := List.forall_mem_cons.mp h
      have hcommaEnds := endsNumber_cons (c := ',') (by decide)
        (Value.commaSeparated ((second :: more).map write) ++ close :: rest)
      have hitem := hfirst _ hcommaEnds
      have hitems := ih hmore (Nat.lt_of_succ_lt_succ hcount)
      rw [List.map_cons, List.map_cons, Value.commaSeparated_cons_cons, List.append_assoc,
        List.cons_append, ← List.map_cons, readItems, hitem, Option.bind_some,
        skipBlanks_cons (by decide)]
      simp only [if_neg hcomma.symm, if_true]
      rw [hitems, Option.map_some]

theorem OpensOtherThan.append {text : List Char} (h : OpensOtherThan close text)
    (more : List Char) : OpensOtherThan close (text ++ more) := by
  obtain ⟨c, rest, rfl, hblank, hother⟩ := h
  exact ⟨c, rest ++ more, rfl, hblank, hother⟩

theorem OpensOtherThan.commaSeparated {first : List Char} (h : OpensOtherThan close first)
    (more : List (List Char)) : OpensOtherThan close (Value.commaSeparated (first :: more)) := by
  cases more with
  | nil => simpa [Value.commaSeparated] using h
  | cons second more =>
      rw [Value.commaSeparated_cons_cons]
      exact h.append _

/-- Items are read if each of them is, and none opens with the bracket that closes them. -/
theorem takes_readSequence (hcomma : close ≠ ',') (hblank : isBlank close = false)
    (hclose : Numeral.isNumeric close = false) {items : List α}
    (hopens : ∀ a ∈ items, OpensOtherThan close (write a))
    (hread : ∀ a ∈ items, Takes read (write a) a) :
    Takes (readSequence close read) (Value.commaSeparated (items.map write) ++ [close]) items := by
  intro rest _
  rw [List.append_assoc, List.singleton_append]
  cases items with
  | nil => simp [Value.commaSeparated, readSequence, skipBlanks_cons hblank]
  | cons first more =>
      have hlength := Value.length_le_commaSeparated ((first :: more).map write)
      have hcount : more.length <
          (Value.commaSeparated ((first :: more).map write) ++ close :: rest).length := by
        simp only [List.length_map, List.length_cons, List.length_append] at hlength ⊢
        omega
      have hitems := readItems_commaSeparated hcomma hblank hclose hread hcount rest
      obtain ⟨c, tail, htext, hcblank, hother⟩ :=
        ((hopens first List.mem_cons_self).commaSeparated (more.map write)).append (close :: rest)
      rw [← List.map_cons] at htext
      rw [htext] at hitems ⊢
      rw [readSequence, skipBlanks_cons hcblank]
      simpa only [if_neg hother] using hitems

/-- A key is read, with what stands behind the colon. -/
theorem takes_readEntry {text : List Char} {a : α} (key : String) (h : Takes read text a) :
    Takes (readEntry read) (Text.quoted key.toList ++ ':' :: text) (key, a) := by
  intro rest hrest
  have htext : Text.quoted key.toList ++ ':' :: text ++ rest =
      '"' :: (key.toList.flatMap Text.quotedChar ++ '"' :: ':' :: (text ++ rest)) := by
    simp [Text.quoted]
  rw [htext, readEntry, skipBlanks_cons (by decide)]
  show (Text.unquote _).bind _ = _
  rw [Text.unquote_flatMap, Option.bind_some, skipBlanks_cons (by decide)]
  show (read (text ++ rest)).map _ = _
  rw [h rest hrest, Option.map_some, String.ofList_toList]

end

end Json

/-! ## Literals -/

/-- A value without floating-point numbers in it. -/
inductive Value.FloatFree : Value → Prop
  | null : FloatFree .null
  | bool (b : Bool) : FloatFree (.bool b)
  | int (n : Int) : FloatFree (.int n)
  | str (s : String) : FloatFree (.str s)
  | list {items : List Value} (h : ∀ v ∈ items, FloatFree v) : FloatFree (.list items)
  | dict {entries : List (String × Value)} (h : ∀ entry ∈ entries, FloatFree entry.2) :
      FloatFree (.dict entries)

namespace Json

theorem takes_word {text : List Char} {v : Value} (h : (text, v) ∈ words) (depth : Nat) :
    Takes (readUpTo (depth + 1)) text v := by
  intro rest _
  simp only [words, List.mem_cons, List.not_mem_nil, or_false, Prod.mk.injEq] at h
  rcases h with ⟨rfl, rfl⟩ | ⟨rfl, rfl⟩ | ⟨rfl, rfl⟩
  · rfl
  · rfl
  · rfl

theorem isBlank_of_isNumeric {c : Char} (h : Numeral.isNumeric c = true) : isBlank c = false := by
  rw [← Bool.not_eq_true]
  intro hblank
  simp only [isBlank, List.mem_cons, List.not_mem_nil, or_false, decide_eq_true_eq] at hblank
  rcases hblank with rfl | rfl | rfl | rfl
  all_goals contradiction

/-- No value with a name is meant where a number opens. -/
theorem readWord_of_isNumeric {c : Char} (h : Numeral.isNumeric c = true) (rest : List Char) :
    readWord (c :: rest) = none := by
  rw [readWord, Option.map_eq_none_iff, List.find?_eq_none]
  intro word hword hprefix
  simp only [words, List.mem_cons, List.not_mem_nil, or_false] at hword
  rcases hword with rfl | rfl | rfl
  all_goals
    obtain ⟨rfl, -⟩ := List.cons_prefix_cons.mp (List.isPrefixOf_iff_prefix.mp hprefix)
    contradiction

/-- An integer is read to its end if no number goes on behind it. -/
theorem takes_integer (n : Int) (depth : Nat) :
    Takes (readUpTo (depth + 1)) (Numeral.integer n) (.int n) := by
  intro rest hrest
  have hnumeric : ∀ c ∈ Numeral.integer n, Numeral.isNumeric c = true := fun _ =>
    Numeral.isNumeric_of_mem_integer
  obtain ⟨htake, hdrop⟩ := takeWhile_dropWhile_append hnumeric hrest
  have hinteger : readInteger (Numeral.integer n ++ rest) = some (.int n, rest) := by
    rw [readInteger, htake, hdrop, Numeral.integer?_integer, Option.map_some]
  obtain ⟨c, tail, hc, hopens⟩ := Numeral.exists_integer_eq_cons n
  rw [hc, List.cons_append] at hinteger ⊢
  rw [readUpTo, skipBlanks_cons (isBlank_of_isNumeric hopens)]
  split
  case h_4 => rw [readWord_of_isNumeric hopens, Option.none_or, hinteger]
  -- Neither a quote nor a bracket opens a number.
  all_goals
    next heq =>
      obtain ⟨rfl, -⟩ := List.cons.inj heq
      contradiction

theorem takes_quoted (s : String) (depth : Nat) :
    Takes (readUpTo (depth + 1)) (Text.quoted s.toList) (.str s) := by
  intro rest _
  rw [Text.quoted, List.cons_append, List.append_assoc, List.singleton_append, readUpTo,
    skipBlanks_cons (by decide)]
  show (Text.unquote _).map _ = _
  rw [Text.unquote_flatMap, Option.map_some, String.ofList_toList]

theorem takes_list {items : List Value} {depth : Nat}
    (hopens : ∀ v ∈ items, OpensOtherThan ']' v.literal)
    (hread : ∀ v ∈ items, Takes (readUpTo depth) v.literal v) :
    Takes (readUpTo (depth + 1)) (Value.list items).literal (.list items) := by
  intro rest hrest
  have hitems := takes_readSequence (by decide) (by decide) (by decide) hopens hread rest hrest
  rw [Value.literal, Value.literals_eq_map, List.cons_append, readUpTo, skipBlanks_cons (by decide)]
  show (readSequence ']' (readUpTo depth) _).map _ = _
  rw [hitems, Option.map_some]

theorem takes_dict {entries : List (String × Value)} {depth : Nat}
    (hread : ∀ entry ∈ entries, Takes (readUpTo depth) entry.2.literal entry.2) :
    Takes (readUpTo (depth + 1)) (Value.dict entries).literal (.dict entries) := by
  intro rest hrest
  have hopens : ∀ entry ∈ entries,
      OpensOtherThan '\x7d' (Text.quoted entry.1.toList ++ ':' :: entry.2.literal) :=
    fun _ _ => ⟨_, _, rfl, by decide⟩
  have hentry : ∀ entry ∈ entries, Takes (readEntry (readUpTo depth))
      (Text.quoted entry.1.toList ++ ':' :: entry.2.literal) entry :=
    fun entry hmem => takes_readEntry entry.1 (hread entry hmem)
  have hentries := takes_readSequence (by decide) (by decide) (by decide) hopens hentry rest hrest
  rw [Value.literal, Value.literalEntries_eq_map, List.cons_append, readUpTo,
    skipBlanks_cons (by decide)]
  show (readSequence '\x7d' (readEntry (readUpTo depth)) _).map _ = _
  rw [hentries, Option.map_some]

theorem opensOtherThan_literal {v : Value} (h : v.FloatFree) :
    OpensOtherThan ']' v.literal := by
  cases h with
  | null => exact ⟨_, _, rfl, by decide⟩
  | bool b => cases b <;> exact ⟨_, _, rfl, by decide⟩
  | int n =>
      obtain ⟨c, tail, hc, hopens⟩ := Numeral.exists_integer_eq_cons n
      refine ⟨c, tail, by rw [Value.literal, hc], isBlank_of_isNumeric hopens, ?_⟩
      rintro rfl
      contradiction
  | str s => exact ⟨_, _, rfl, by decide⟩
  | list => exact ⟨_, _, rfl, by decide⟩
  | dict => exact ⟨_, _, rfl, by decide⟩

/-- A literal is read back, whatever follows it unless a number goes on there. -/
theorem takes_literal {v : Value} (h : v.FloatFree) {depth : Nat}
    (hdepth : v.literal.length ≤ depth) : Takes (readUpTo (depth + 1)) v.literal v := by
  induction h generalizing depth with
  | null => exact takes_word List.mem_cons_self depth
  | bool b =>
      have hword : ((Value.bool b).literal, .bool b) ∈ words := by
        cases b <;> simp [words, Value.literal]
      exact takes_word hword depth
  | int n => exact takes_integer n depth
  | str s => exact takes_quoted s depth
  | @list items h ih =>
      rw [Value.literal, Value.literals_eq_map, List.length_cons, List.length_append] at hdepth
      obtain ⟨depth, rfl⟩ := Nat.exists_eq_add_one_of_ne_zero (show depth ≠ 0 by omega)
      refine takes_list (fun v hv => opensOtherThan_literal (h v hv)) fun v hv => ih v hv ?_
      have hlength := Value.length_le_of_mem (List.mem_map_of_mem (f := Value.literal) hv)
      omega
  | @dict entries h ih =>
      rw [Value.literal, Value.literalEntries_eq_map, List.length_cons, List.length_append]
        at hdepth
      obtain ⟨depth, rfl⟩ := Nat.exists_eq_add_one_of_ne_zero (show depth ≠ 0 by omega)
      refine takes_dict fun entry hentry => ih entry hentry ?_
      have hlength := Value.length_le_of_mem (List.mem_map_of_mem
        (f := fun entry : String × Value => Text.quoted entry.1.toList ++ ':' :: entry.2.literal)
        hentry)
      simp only [List.length_append, List.length_cons] at hlength
      omega

end Json

/-! ## The text of a literal -/

namespace Value

/-- The value of a literal is read back from its text. -/
theorem ofJson?_literal {v : Value} (h : v.FloatFree) : ofJson? v.literal = some v := by
  have htakes := Json.takes_literal h (Nat.le_refl _) [] (by simp [Json.EndsNumber])
  rw [List.append_nil] at htakes
  rw [ofJson?, htakes]
  rfl

/-- All control characters in a literal are escaped, the line breaks among them. -/
theorem toNat_of_mem_literal {v : Value} (h : v.FloatFree) :
    ∀ c ∈ v.literal, 0x20 ≤ c.toNat := by
  induction h with
  | null => simp [literal]
  | bool b => cases b <;> simp [literal]
  | int n => exact fun c hc => Numeral.toNat_of_isNumeric (Numeral.isNumeric_of_mem_integer hc)
  | str s => exact Text.toNat_of_mem_quoted
  | @list items h ih =>
      rw [literal, literals_eq_map]
      refine List.forall_mem_cons.mpr ⟨by decide, List.forall_mem_append.mpr ⟨?_, by simp⟩⟩
      exact forall_mem_commaSeparated (by decide) (List.forall_mem_map.mpr ih)
  | @dict entries h ih =>
      rw [literal, literalEntries_eq_map]
      refine List.forall_mem_cons.mpr ⟨by decide, List.forall_mem_append.mpr ⟨?_, by simp⟩⟩
      refine forall_mem_commaSeparated (by decide) (List.forall_mem_map.mpr fun entry hentry => ?_)
      exact List.forall_mem_append.mpr ⟨Text.toNat_of_mem_quoted,
        List.forall_mem_cons.mpr ⟨by decide, ih entry hentry⟩⟩

end Value

end SchemaDecls
