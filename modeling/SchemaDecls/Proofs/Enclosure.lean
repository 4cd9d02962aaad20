import SchemaDecls.Proofs.Expansion
import SchemaDecls.Proofs.PropertyKeys

/-!
# Operators outside of brackets

A type expression is flat text, and what its operators `|` and `&` apply to is a matter of
brackets.  `operatorOutside? text` reads a text from left to right and says whether an
operator stands in it outside of all brackets, string quotes and block comments.  It says
nothing of a text that leaves one of them open, or closes a bracket that it has not opened,
or breaks off behind a slash or an equals sign with which a comment or an arrow may begin.
Comments that end with their line are not known to it.

Texts are put together from smaller ones, with brackets around them or without.  So the
question is asked of all of them at once: `Settles text outside` says that a reader comes out
of the text as it went in, whatever is open around it, and has seen an operator outside only
if nothing is open around it and `outside` is true.  Texts behind one another settle
(`Settles.append`), brackets hide what is between them (`IsClosed.enclose`), and a text that is
answered on its own settles wherever it stands (`settles_of_operatorOutside?`).
-/

namespace SchemaDecls

/-! ## Reading -/

/-- What the next character is read as a part of. -/
inductive Mode where
  | code
  /-- Behind a slash, with which a comment may begin. -/
  | slash
  /-- Behind an equals sign, with which an arrow may begin. -/
  | equals
  | quoted (quote : Char)
  /-- Behind a backslash between quotes. -/
  | escaped (quote : Char)
  | comment
  /-- Behind an asterisk in a comment. -/
  | star
deriving DecidableEq, Repr

/-- A reader on its way through a text. -/
structure Scanner where
  /-- The brackets that close what is open, the inmost first. -/
  closers : List Char
  mode : Mode
  /-- An operator has been read outside of everything. -/
  exposed : Bool
deriving DecidableEq, Repr

/-- The bracket that closes what this one opens. -/
def closer? : Char → Option Char
  | '(' => some ')'
  | '[' => some ']'
  | '\x7b' => some '\x7d'
  | '<' => some '>'
  | _ => none

/-- The character closes a bracket. -/
def isCloser (c : Char) : Bool := c ∈ [')', ']', '\x7d', '>']

/-- The character opens and closes a string. -/
def isQuote (c : Char) : Bool := c ∈ ['"', '\'', '\x60']

/-- The character puts types together that stand on either side of it. -/
def isOperator (c : Char) : Bool := c == '|' || c == '&'

/-- The character means nothing to a reader but for the place that it takes. -/
def isInert (c : Char) : Bool :=
  (closer? c).isNone && !isCloser c && !isQuote c && c ≠ '/' && c ≠ '='

namespace Scanner

/-- A reader at the start of a text. -/
def start : Scanner := ⟨[], .code, false⟩

/-- Reads a character of the text itself.  A bracket that closes nothing cannot be read. -/
def readCode (s : Scanner) (c : Char) : Option Scanner :=
  let exposed := s.exposed || (s.closers.isEmpty && isOperator c)
  match closer? c with
  | some d => some ⟨d :: s.closers, .code, exposed⟩
  | none =>
      if isCloser c then
        match s.closers with
        | d :: outer => if c = d then some ⟨outer, .code, exposed⟩ else none
        | [] => none
      else
        let mode : Mode :=
          if isQuote c then .quoted c else if c = '/' then .slash
          else if c = '=' then .equals else .code
        some ⟨s.closers, mode, exposed⟩

/-- Reads a character. -/
def read (s : Scanner) (c : Char) : Option Scanner :=
  match s.mode with
  | .code => s.readCode c
  | .slash => if c = '*' then some { s with mode := .comment } else s.readCode c
  | .equals => if c = '>' then some { s with mode := .code } else s.readCode c
  | .quoted quote =>
      some { s with mode := if c = quote then .code else if c = '\\' then .escaped quote else s.mode }
  | .escaped quote => some { s with mode := .quoted quote }
  | .comment => some { s with mode := if c = '*' then .star else .comment }
  | .star =>
      some { s with mode := if c = '/' then .code else if c = '*' then .star else .comment }

/-- Reads a text. -/
def scan (s : Scanner) (text : List Char) : Option Scanner := text.foldlM read s

theorem scan_cons (s : Scanner) (c : Char) (text : List Char) :
    s.scan (c :: text) = (s.read c).bind fun s' => s'.scan text := rfl

theorem scan_append (s : Scanner) (text more : List Char) :
    s.scan (text ++ more) = (s.scan text).bind fun s' => s'.scan more :=
  List.foldlM_append

/-- The reader in the midst of something else: there are brackets open around, and operators
may have been read before.  They are read outside only if no bracket is open around. -/
def within (s : Scanner) (outer : List Char) (before : Bool) : Scanner :=
  ⟨s.closers ++ outer, s.mode, before || (outer.isEmpty && s.exposed)⟩

theorem readCode_within {s s' : Scanner} {c : Char} (h : s.readCode c = some s')
    (outer : List Char) (before : Bool) :
    (s.within outer before).readCode c = some (s'.within outer before) := by
  obtain ⟨closers, mode, exposed⟩ := s
  have hexposed : ((before || (outer.isEmpty && exposed)) ||
      ((closers ++ outer).isEmpty && isOperator c)) =
      (before || (outer.isEmpty && (exposed || (closers.isEmpty && isOperator c)))) := by
    cases outer <;> cases closers <;> simp [Bool.or_assoc]
  unfold readCode at h ⊢
  simp only [within, hexposed]
  cases hcloser : closer? c with
  | some d =>
      simp only [hcloser, Option.some.injEq] at h
      rw [← h]
      rfl
  | none =>
      simp only [hcloser] at h
      split at h
      next hclose =>
        rw [if_pos hclose]
        cases closers with
        | nil => contradiction
        | cons d rest =>
            simp only [List.cons_append] at h ⊢
            split at h
            next heq =>
              rw [if_pos heq, ← Option.some.inj h]
            next => contradiction
      next hclose =>
        rw [if_neg hclose, ← Option.some.inj h]

/-- What is around makes no difference to how a character is read. -/
theorem read_within {s s' : Scanner} {c : Char} (h : s.read c = some s') (outer : List Char)
    (before : Bool) : (s.within outer before).read c = some (s'.within outer before) := by
  -- Brackets and operators are read as code only, which a slash or an equals sign may still be.
  obtain ⟨closers, mode, exposed⟩ := s
  cases mode with
  | code => exact readCode_within h outer before
  | slash =>
      by_cases hc : c = '*'
      · simp only [read, hc, if_true, Option.some.injEq] at h
        simp [read, within, hc, ← h]
      · simp only [read, hc, if_false] at h
        simpa [read, within, hc] using readCode_within h outer before
  | equals =>
      by_cases hc : c = '>'
      · simp only [read, hc, if_true, Option.some.injEq] at h
        simp [read, within, hc, ← h]
      · simp only [read, hc, if_false] at h
        simpa [read, within, hc] using readCode_within h outer before
  | _ =>
      simp only [read, Option.some.injEq] at h
      simp [read, within, ← h]

theorem scan_within {s s' : Scanner} {text : List Char} (h : s.scan text = some s')
    (outer : List Char) (before : Bool) :
    (s.within outer before).scan text = some (s'.within outer before) := by
  induction text generalizing s with
  | nil =>
      obtain rfl := Option.some.inj h
      rfl
  | cons c rest ih =>
      rw [scan_cons] at h
      obtain ⟨next, hnext, hrest⟩ := Option.bind_eq_some_iff.mp h
      rw [scan_cons, read_within hnext, Option.bind_some, ih hrest]

end Scanner

/-- Whether an operator stands outside of all brackets, string quotes and block comments of the
text.  There is no answer if one of them is left open, if a bracket closes nothing, or if the
text breaks off behind a slash or an equals sign with which a comment or an arrow may begin.
Two slashes begin no comment, and what is behind them is read like everything else. -/
def operatorOutside? (text : String) : Option Bool :=
  match Scanner.start.scan text.toList with
  | some ⟨[], .code, exposed⟩ => some exposed
  | _ => none

theorem operatorOutside?_eq_some_iff {text : String} {outside : Bool} :
    operatorOutside? text = some outside ↔
      Scanner.start.scan text.toList = some ⟨[], .code, outside⟩ := by
  unfold operatorOutside?
  split
  next exposed h => simp [h]
  next h =>
    simp only [reduceCtorEq, false_iff]
    exact h outside

example : operatorOutside? "(a: string) => Map<number, 'b | c'>" = some false ∧
    operatorOutside? "A /" = none ∧ operatorOutside? "A // B | C" = some true := by
  decide +kernel

/-! ## Texts in their surroundings -/

/-- A reader comes out of the text as it went in, and sees an operator outside only if no
bracket is open around the text. -/
def Settles (text : List Char) (outside : Bool) : Prop :=
  ∀ closers exposed, Scanner.scan ⟨closers, .code, exposed⟩ text =
    some ⟨closers, .code, exposed || (closers.isEmpty && outside)⟩

/-- Whatever is around, a text is read as it is on its own. -/
theorem settles_of_operatorOutside? {text : String} {outside : Bool}
    (h : operatorOutside? text = some outside) : Settles text.toList outside := by
  intro closers exposed
  have hscan := Scanner.scan_within (operatorOutside?_eq_some_iff.mp h) closers exposed
  simpa [Scanner.start, Scanner.within] using hscan

namespace Settles

variable {text more : List Char} {outside : Bool}

theorem operatorOutside?_eq {text : String} (h : Settles text.toList outside) :
    operatorOutside? text = some outside := by
  rw [operatorOutside?_eq_some_iff, Scanner.start, h]
  rfl

theorem nil : Settles [] false := by
  intro closers exposed
  simp [Scanner.scan]

theorem append {outside' : Bool} (h : Settles text outside) (h' : Settles more outside') :
    Settles (text ++ more) (outside || outside') := by
  intro closers exposed
  rw [Scanner.scan_append, h, Option.bind_some, h']
  cases closers <;> simp [Bool.or_assoc]

theorem cons {c : Char} (hc : isInert c = true) (h : Settles text outside) :
    Settles (c :: text) (isOperator c || outside) := by
  intro closers exposed
  obtain ⟨⟨⟨⟨hopen, hclose⟩, hquote⟩, hslash⟩, hequals⟩ :
      ((((closer? c = none) ∧ isCloser c = false) ∧ isQuote c = false) ∧ c ≠ '/') ∧ c ≠ '=' := by
    simpa [isInert] using hc
  have hread : Scanner.read ⟨closers, .code, exposed⟩ c =
      some ⟨closers, .code, exposed || (closers.isEmpty && isOperator c)⟩ := by
    simp [Scanner.read, Scanner.readCode, hopen, hclose, hquote, hslash, hequals]
  rw [Scanner.scan_cons, hread, Option.bind_some, h]
  cases closers <;> simp [Bool.or_assoc]

/-- Operators in a text of inert characters are outside. -/
theorem of_inert (h : ∀ c ∈ text, isInert c = true) : Settles text (text.any isOperator) := by
  induction text with
  | nil => exact .nil
  | cons c rest ih =>
      obtain ⟨hc, hrest⟩ := List.forall_mem_cons.mp h
      exact (ih hrest).cons hc

theorem of_inert_of_not_isOperator
    (h : ∀ c ∈ text, isInert c = true ∧ isOperator c = false) : Settles text false := by
  have hnone : text.any isOperator = false :=
    List.any_eq_false.mpr fun c hc => by simp [(h c hc).2]
  exact hnone ▸ of_inert fun c hc => (h c hc).1

end Settles

/-- The text settles. -/
def IsClosed (text : List Char) : Prop := ∃ outside, Settles text outside

theorem Settles.isClosed {text : List Char} {outside : Bool} (h : Settles text outside) :
    IsClosed text :=
  ⟨outside, h⟩

namespace IsClosed

variable {text more : List Char}

theorem append (h : IsClosed text) (h' : IsClosed more) : IsClosed (text ++ more) := by
  obtain ⟨outside, h⟩ := h
  obtain ⟨outside', h'⟩ := h'
  exact (h.append h').isClosed

theorem intercalate {separator : List Char} {texts : List (List Char)}
    (hseparator : IsClosed separator) (h : ∀ t ∈ texts, IsClosed t) :
    IsClosed (separator.intercalate texts) := by
  induction texts with
  | nil => exact Settles.nil.isClosed
  | cons first rest ih =>
      obtain ⟨hfirst, hrest⟩ := List.forall_mem_cons.mp h
      cases rest with
      | nil => simpa using hfirst
      | cons second rest =>
          rw [List.intercalate_cons_cons]
          exact (hfirst.append hseparator).append (ih hrest)

/-- Nothing is outside between brackets. -/
theorem enclose {first last : Char} (hbracket : closer? first = some last)
    (h : IsClosed text) : Settles (first :: (text ++ [last])) false := by
  obtain ⟨outside, h⟩ := h
  intro closers exposed
  have hpair : isOperator first = false ∧ closer? last = none ∧ isCloser last = true ∧
      isOperator last = false := by
    unfold closer? at hbracket
    split at hbracket <;> simp_all <;> subst hbracket <;> decide
  obtain ⟨hfirst, hopen, hclose, hlast⟩ := hpair
  have hin : Scanner.read ⟨closers, .code, exposed⟩ first =
      some ⟨last :: closers, .code, exposed⟩ := by
    simp [Scanner.read, Scanner.readCode, hbracket, hfirst]
  have hout : Scanner.read ⟨last :: closers, .code, exposed⟩ last =
      some ⟨closers, .code, exposed⟩ := by
    simp [Scanner.read, Scanner.readCode, hopen, hclose, hlast]
  rw [Scanner.scan_cons, hin, Option.bind_some, Scanner.scan_append, h, Option.bind_some]
  simpa [Scanner.scan] using hout

end IsClosed

/-! ## Classes of characters -/

/-- The characters that are operators or mean something to a reader in another way. -/
def marks : List Char :=
  ['(', ')', '[', ']', '\x7b', '\x7d', '<', '>', '"', '\'', '\x60', '/', '=', '|', '&']

theorem isInert_of_not_mem_marks {c : Char} (h : c ∉ marks) :
    isInert c = true ∧ isOperator c = false := by
  simp only [marks, List.mem_cons, List.not_mem_nil, or_false, not_or] at h
  have hcloser : closer? c = none := by
    unfold closer?
    split <;> simp_all
  simp [isInert, hcloser, isCloser, isQuote, isOperator, h]

/-- Texts of a class of characters to which no mark belongs are as good as names. -/
theorem Settles.of_class {p : Char → Bool} (hp : marks.any p = false) {text : List Char}
    (h : ∀ c ∈ text, p c = true) : Settles text false := by
  apply Settles.of_inert_of_not_isOperator
  intro c hc
  apply isInert_of_not_mem_marks
  intro hmark
  exact List.any_eq_false.mp hp c hmark (h c hc)

/-- A text of inert characters, for texts that are known. -/
theorem settles_inert {text : String} (h : text.toList.all isInert = true) :
    Settles text.toList (text.toList.any isOperator) :=
  .of_inert (List.all_eq_true.mp h)

/-! ## Strings -/

/-- Between quotes, only the quote and the backslash are of interest. -/
theorem scan_between_quotes {quote : Char} {text : List Char}
    (h : ∀ c ∈ text, c ≠ quote ∧ c ≠ '\\') (closers : List Char) (exposed : Bool) :
    Scanner.scan ⟨closers, .quoted quote, exposed⟩ text =
      some ⟨closers, .quoted quote, exposed⟩ := by
  induction text with
  | nil => rfl
  | cons c rest ih =>
      obtain ⟨⟨hquote, hbackslash⟩, hrest⟩ := List.forall_mem_cons.mp h
      have hread : Scanner.read ⟨closers, .quoted quote, exposed⟩ c =
          some ⟨closers, .quoted quote, exposed⟩ := by
        simp [Scanner.read, hquote, hbackslash]
      rw [Scanner.scan_cons, hread, Option.bind_some, ih hrest]

/-- A character of a string, escaped or not, does not end it. -/
theorem scan_quotedChar (c : Char) (closers : List Char) (exposed : Bool) :
    Scanner.scan ⟨closers, .quoted '"', exposed⟩ (Text.quotedChar c) =
      some ⟨closers, .quoted '"', exposed⟩ := by
  have hescape : ∀ d rest, (∀ x ∈ rest, x ≠ '"' ∧ x ≠ '\\') →
      Scanner.scan ⟨closers, .quoted '"', exposed⟩ ('\\' :: d :: rest) =
        some ⟨closers, .quoted '"', exposed⟩ := by
    intro d rest hrest
    have hbackslash : Scanner.read ⟨closers, .quoted '"', exposed⟩ '\\' =
        some ⟨closers, .escaped '"', exposed⟩ := by
      simp [Scanner.read]
    rw [Scanner.scan_cons, hbackslash, Option.bind_some, Scanner.scan_cons]
    exact scan_between_quotes hrest closers exposed
  have hdigits : ∀ d < 16, Text.hexDigit d ≠ '"' ∧ Text.hexDigit d ≠ '\\' := by decide
  unfold Text.quotedChar
  split_ifs with hquote hbackslash
  all_goals try exact hescape _ [] (by simp)
  · refine hescape 'u' _ fun x hx => ?_
    obtain ⟨d, hd, rfl⟩ := Text.exists_of_mem_hexDigits hx
    exact hdigits d hd
  · exact scan_between_quotes (by simp [hquote, hbackslash]) closers exposed

theorem settles_quoted (s : List Char) : Settles (Text.quoted s) false := by
  intro closers exposed
  have hinner : Scanner.scan ⟨closers, .quoted '"', exposed⟩ (s.flatMap Text.quotedChar) =
      some ⟨closers, .quoted '"', exposed⟩ := by
    induction s with
    | nil => rfl
    | cons c rest ih =>
        rw [List.flatMap_cons, Scanner.scan_append, scan_quotedChar, Option.bind_some, ih]
  have hopen : Scanner.read ⟨closers, .code, exposed⟩ '"' =
      some ⟨closers, .quoted '"', exposed⟩ := by
    simp [Scanner.read, Scanner.readCode, closer?, isCloser, isQuote, isOperator]
  rw [Text.quoted, Scanner.scan_cons, hopen, Option.bind_some, Scanner.scan_append, hinner]
  simp [Scanner.scan, Scanner.read]

/-! ## Comments -/

/-- A line of a comment in which the comment does not end. -/
theorem scan_line {line : List Char} (h : ¬ ['*', '/'] <:+: line) {mode : Mode}
    (hmode : mode = .comment ∨ mode = .star ∧ line.head? ≠ some '/') (closers : List Char)
    (exposed : Bool) :
    Scanner.scan ⟨closers, mode, exposed⟩ (line ++ ['\n']) =
      some ⟨closers, .comment, exposed⟩ := by
  induction line generalizing mode with
  | nil =>
      rcases hmode with rfl | ⟨rfl, -⟩ <;> simp [Scanner.scan, Scanner.read]
  | cons c rest ih =>
      have hrest : ¬ ['*', '/'] <:+: rest := fun hinfix => h (List.infix_cons hinfix)
      -- Behind an asterisk, it is the rest of the line that must not begin with a slash.
      have hnext : ∃ next, Scanner.read ⟨closers, mode, exposed⟩ c = some ⟨closers, next, exposed⟩ ∧
          (next = .comment ∨ next = .star ∧ rest.head? ≠ some '/') := by
        by_cases hc : c = '*'
        · refine ⟨.star, ?_, .inr ⟨rfl, ?_⟩⟩
          · rcases hmode with rfl | ⟨rfl, -⟩ <;> simp [Scanner.read, hc]
          · intro hhead
            obtain ⟨tail, rfl⟩ := List.head?_eq_some_iff.mp hhead
            exact h ⟨[], tail, by simp [hc]⟩
        · refine ⟨.comment, ?_, .inl rfl⟩
          rcases hmode with rfl | ⟨rfl, hslash⟩
          · simp [Scanner.read, hc]
          · have hc' : c ≠ '/' := by simpa using hslash
            simp [Scanner.read, hc, hc']
      obtain ⟨next, hread, hnext⟩ := hnext
      rw [List.cons_append, Scanner.scan_cons, hread, Option.bind_some, ih hrest hnext]

theorem scan_blockLines {lines : List (List Char)} (h : ∀ line ∈ lines, ¬ ['*', '/'] <:+: line)
    (closers : List Char) (exposed : Bool) :
    Scanner.scan ⟨closers, .comment, exposed⟩ (lines.flatMap Comment.blockLine) =
      some ⟨closers, .comment, exposed⟩ := by
  induction lines with
  | nil => rfl
  | cons line rest ih =>
      obtain ⟨hline, hrest⟩ := List.forall_mem_cons.mp h
      have hblockLine : Scanner.scan ⟨closers, .comment, exposed⟩ (Comment.blockLine line) =
          some ⟨closers, .comment, exposed⟩ :=
        scan_line hline (.inl rfl) closers exposed
      rw [List.flatMap_cons, Scanner.scan_append, hblockLine, Option.bind_some, ih hrest]

/-- A block settles if the text of the comment does not end it. -/
theorem settles_block {comment : String} (h : ¬ Occurs "*/" comment) :
    Settles (Comment.block comment).toList false := by
  have hlines : ∀ line ∈ Comment.lines comment.toList, ¬ ['*', '/'] <:+: line := by
    intro line hline hends
    have hocc := Occurs.intercalate (List.mem_map_of_mem (f := String.ofList) hline) "\n"
    have hall : "\n".intercalate ((Comment.lines comment.toList).map String.ofList) = comment := by
      rw [← String.toList_inj, String.toList_intercalate, List.map_map]
      simpa [Function.comp_def] using Comment.intercalate_lines comment.toList
    rw [hall, Occurs, String.toList_ofList] at hocc
    exact h (hends.trans hocc)
  have hblock : (Comment.block comment).toList =
      ['/', '*', '*', '\n'] ++ (Comment.lines comment.toList).flatMap Comment.blockLine ++
        [' ', '*', '/'] := by
    simp [Comment.block]
  intro closers exposed
  have hopen : Scanner.scan ⟨closers, .code, exposed⟩ ['/', '*', '*', '\n'] =
      some ⟨closers, .comment, exposed⟩ := by
    simp [Scanner.scan, Scanner.read, Scanner.readCode, closer?, isCloser, isQuote, isOperator]
  have hclose : Scanner.scan ⟨closers, .comment, exposed⟩ [' ', '*', '/'] =
      some ⟨closers, .code, exposed⟩ := rfl
  rw [hblock, Scanner.scan_append, Scanner.scan_append, hopen, Option.bind_some,
    scan_blockLines hlines, Option.bind_some, hclose, Bool.and_false, Bool.or_false]

end SchemaDecls
