import SchemaDecls.Proofs.Expansion
import SchemaDecls.Proofs.PropertyKeys

/-!
# Member lists are read back

The body of an interface has its members between two braces, each on a line of its own, and
the comment of a member in a block above it.  Keys and comments are arbitrary texts.  Still
nothing of them can be taken for anything else, for a line break in a key is escaped, and
all lines of a comment are set off by an asterisk.

So the members are read back line by line (`readBody?`).  A reader is between two members,
within a comment, or behind a comment and above the member that it belongs to; which of them
is all that it has to remember, besides what it has read (`MemberReader`).  The lines of one
member take it from between two members to between two members again, whatever it has read
before (`MemberReader.foldlM_lines`).  What the text cannot tell is a line break in a type,
and a key that is missing from one that reads `null`.
-/

namespace SchemaDecls

/-! ## Lines -/

namespace Comment

/-- Line breaks take lines apart. -/
theorem lines_append (text more : List Char) :
    lines (text ++ '\n' :: more) = lines text ++ lines more :=
  List.splitOn_append_cons_self text more

theorem lines_of_notMem {text : List Char} (h : '\n' ∉ text) : lines text = [text] :=
  List.splitOn_eq_singleton h

theorem notMem_of_mem_lines {text line : List Char} (h : line ∈ lines text) : '\n' ∉ line := by
  induction text generalizing line with
  | nil =>
      obtain rfl : line = [] := by simpa [lines] using h
      exact List.not_mem_nil
  | cons c rest ih =>
      rw [lines, List.splitOn_cons_eq_if_modifyHead] at h
      split at h
      next =>
        rcases List.mem_cons.mp h with rfl | h
        · exact List.not_mem_nil
        · exact ih h
      next hc =>
        obtain ⟨first, others, hlines⟩ :=
          List.exists_cons_of_ne_nil (List.splitOn_ne_nil '\n' rest)
        have hall : ∀ l ∈ first :: others, '\n' ∉ l := fun l hl => ih (show l ∈ lines rest by
          rwa [lines, hlines])
        rw [hlines, List.modifyHead_cons] at h
        rcases List.mem_cons.mp h with rfl | h
        · simp only [List.mem_cons, not_or]
          exact ⟨fun heq => hc (beq_iff_eq.mpr heq.symm), hall first List.mem_cons_self⟩
        · exact hall line (List.mem_cons_of_mem first h)

/-- The first line of a block. -/
def openingLine : List Char := ['/', '*', '*']

/-- The last line of a block. -/
def closingLine : List Char := [' ', '*', '/']

/-- A line of the text in its block. -/
def setOff (line : List Char) : List Char := ' ' :: '*' :: ' ' :: line

/-- The block of a text, line by line. -/
theorem lines_block (comment : String) :
    lines (block comment).toList =
      openingLine :: ((lines comment.toList).map setOff ++ [closingLine]) := by
  have hblock : (block comment).toList =
      openingLine ++ '\n' :: ((lines comment.toList).flatMap blockLine ++ closingLine) := by
    simp [block, openingLine, closingLine]
  have hinner : ∀ ls : List (List Char), (∀ line ∈ ls, '\n' ∉ line) →
      lines (ls.flatMap blockLine ++ closingLine) = ls.map setOff ++ [closingLine] := by
    intro ls hls
    induction ls with
    | nil => rfl
    | cons line rest ih =>
        obtain ⟨hline, hrest⟩ := List.forall_mem_cons.mp hls
        have hsplit : (line :: rest).flatMap blockLine ++ closingLine =
            setOff line ++ '\n' :: (rest.flatMap blockLine ++ closingLine) := by
          simp [blockLine, setOff]
        rw [hsplit, lines_append, ih hrest, lines_of_notMem (by simpa [setOff] using hline)]
        rfl
  rw [hblock, lines_append, hinner _ fun _ => notMem_of_mem_lines]
  rfl

end Comment

/-! ## The line of a member -/

theorem Text.notMem_quoted (s : List Char) : '\n' ∉ quoted s :=
  fun hbreak => absurd (toNat_of_mem_quoted '\n' hbreak) (by decide)

/-- A key is written on one line. -/
theorem PropertyKey.notMem_render (key : Option String) : '\n' ∉ (render key).toList := by
  cases key with
  | none => decide
  | some key =>
      unfold render
      dsimp only
      split_ifs with hbare
      · rcases Bool.or_eq_true_iff.mp hbare with hident | hindex
        · intro hbreak
          have hpart := isPart_of_isIdentifier hident '\n' hbreak
          contradiction
        · rw [eq_of_beq hindex]
          decide
      · rw [String.toList_ofList]
        exact Text.notMem_quoted key.toList

namespace TypeExpr

variable {g : Graph} {properties : List Property} {ms : List Member}

/-- The line with the key and the type of a member. -/
def Member.line (m : Member) : List Char :=
  (PropertyKey.render m.key).toList ++ (if m.required then [] else ['?']) ++
    ':' :: ' ' :: m.type.toList

theorem Member.toList_mark (m : Member) :
    (if m.required then "" else "?").toList = if m.required then [] else ['?'] := by
  split <;> rfl

theorem Member.toList_text_of_none {m : Member} (h : m.comment = none) :
    m.text.toList = m.line := by
  simp [Member.text, Member.line, h, m.toList_mark]

theorem Member.toList_text_of_some {m : Member} {comment : String}
    (h : m.comment = some comment) :
    m.text.toList = (Comment.block comment).toList ++ '\n' :: m.line := by
  simp [Member.text, Member.line, h, m.toList_mark]

/-- Reads the mark of a member and its type. -/
def Member.ofTyped? (comment : Option String) (key : String) : List Char → Option Member
  | ':' :: ' ' :: type => some ⟨comment, some key, true, String.ofList type⟩
  | '?' :: ':' :: ' ' :: type => some ⟨comment, some key, false, String.ofList type⟩
  | _ => none

/-- Reads the line of a member. -/
def Member.ofLine? (comment : Option String) (line : List Char) : Option Member :=
  (PropertyKey.read line).bind fun r => Member.ofTyped? comment r.1 r.2

/-- The member has a key, and there is no line break in its type. -/
def Member.FitsLine (m : Member) : Prop := m.key.isSome ∧ '\n' ∉ m.type.toList

theorem Member.FitsLine.ofLine?_line {m : Member} (h : m.FitsLine) :
    Member.ofLine? m.comment m.line = some m := by
  obtain ⟨comment, key, required, type⟩ := m
  obtain ⟨key, rfl⟩ := Option.isSome_iff_exists.mp h.1
  have hmark : ∀ c ∈ ((if required then [] else ['?']) ++ ':' :: ' ' :: type.toList).head?,
      PropertyKey.isPart c = false := by
    cases required <;> simp [PropertyKey.isPart, Char.isAlphanum]
  have hread := PropertyKey.read_render key hmark
  rw [Member.ofLine?, Member.line, List.append_assoc, hread, Option.bind_some]
  cases required <;> simp [Member.ofTyped?]

theorem Member.FitsLine.notMem_line {m : Member} (h : m.FitsLine) : '\n' ∉ m.line := by
  have hkey := PropertyKey.notMem_render m.key
  have htype := h.2
  cases hrequired : m.required <;> simp [Member.line, hkey, htype, hrequired]

/-! ## The lines of a member -/

/-- The lines of a member, those of its comment above. -/
def Member.lines (m : Member) : List (List Char) :=
  (match m.comment with
    | some comment => Comment.lines (Comment.block comment).toList
    | none => []) ++ [m.line]

theorem Member.FitsLine.lines_text {m : Member} (h : m.FitsLine) :
    Comment.lines m.text.toList = m.lines := by
  have hline := Comment.lines_of_notMem h.notMem_line
  cases hcomment : m.comment with
  | none =>
      rw [Member.toList_text_of_none hcomment, hline, Member.lines, hcomment]
      rfl
  | some comment =>
      rw [Member.toList_text_of_some hcomment, Comment.lines_append, hline, Member.lines, hcomment]

theorem lines_intercalate (first : Member) (rest : List Member)
    (h : ∀ m ∈ first :: rest, m.FitsLine) :
    Comment.lines ("\n".intercalate ((first :: rest).map Member.text)).toList =
      (first :: rest).flatMap Member.lines := by
  induction rest generalizing first with
  | nil =>
      have hfirst : first.FitsLine := h first List.mem_cons_self
      simpa using hfirst.lines_text
  | cons second rest ih =>
      obtain ⟨hfirst, hrest⟩ := List.forall_mem_cons.mp h
      have hsplit : ("\n".intercalate ((first :: second :: rest).map Member.text)).toList =
          first.text.toList ++
            '\n' :: ("\n".intercalate ((second :: rest).map Member.text)).toList := by
        simp [String.toList_intercalate]
      rw [hsplit, Comment.lines_append, hfirst.lines_text, ih second hrest]
      rfl

/-! ## Reading -/

/-- Where a reader of members is. -/
inductive Place where
  | between
  /-- In a comment, behind these lines of it. -/
  | within (lines : List (List Char))
  /-- Behind a comment, and above the member that has it. -/
  | above (comment : String)
deriving DecidableEq, Repr

/-- A reader of members. -/
structure MemberReader where
  done : List Member
  place : Place
deriving DecidableEq, Repr

namespace MemberReader

/-- What is set off in a line. -/
def within? : List Char → Option (List Char)
  | ' ' :: '*' :: ' ' :: line => some line
  | _ => none

/-- Reads the line of a member and comes out between two members. -/
def readMember (r : MemberReader) (comment : Option String) (line : List Char) :
    Option MemberReader :=
  (Member.ofLine? comment line).map fun m => ⟨r.done ++ [m], .between⟩

/-- Reads a line. -/
def readLine (r : MemberReader) (line : List Char) : Option MemberReader :=
  match r.place with
  | .between =>
      if line = Comment.openingLine then some { r with place := .within [] }
      else r.readMember none line
  | .within lines =>
      if line = Comment.closingLine then
        some { r with place := .above (String.ofList (['\n'].intercalate lines)) }
      else (within? line).map fun text => { r with place := .within (lines ++ [text]) }
  | .above comment => r.readMember (some comment) line

/-- In a comment, lines that are set off are taken as they are. -/
theorem foldlM_setOff (done : List Member) (lines more : List (List Char)) :
    (more.map Comment.setOff).foldlM readLine ⟨done, .within lines⟩ =
      some ⟨done, .within (lines ++ more)⟩ := by
  induction more generalizing lines with
  | nil => simp
  | cons line rest ih =>
      have hstep : readLine ⟨done, .within lines⟩ (Comment.setOff line) =
          some ⟨done, .within (lines ++ [line])⟩ := by
        simp [readLine, within?, Comment.setOff, Comment.closingLine]
      rw [List.map_cons, List.foldlM_cons, hstep]
      show (rest.map Comment.setOff).foldlM readLine ⟨done, .within (lines ++ [line])⟩ = _
      rw [ih, List.append_assoc]
      rfl

/-- The block of a comment is read, whatever the comment is. -/
theorem foldlM_block (done : List Member) (comment : String) :
    (Comment.lines (Comment.block comment).toList).foldlM readLine ⟨done, .between⟩ =
      some ⟨done, .above comment⟩ := by
  have hopen : readLine ⟨done, .between⟩ Comment.openingLine = some ⟨done, .within []⟩ := rfl
  have hclose : readLine ⟨done, .within (Comment.lines comment.toList)⟩ Comment.closingLine =
      some ⟨done, .above comment⟩ := by
    simp [readLine, Comment.intercalate_lines]
  rw [Comment.lines_block, List.foldlM_cons, hopen]
  show ((Comment.lines comment.toList).map Comment.setOff ++ [Comment.closingLine]).foldlM
    readLine ⟨done, .within []⟩ = _
  rw [List.foldlM_append, foldlM_setOff, Option.bind_eq_bind, Option.bind_some, List.nil_append,
    List.foldlM_cons, hclose]
  rfl

/-- The lines of a member are read as this member, and lead from between two members to
between two members. -/
theorem foldlM_lines {m : Member} (h : m.FitsLine) (done : List Member) :
    m.lines.foldlM readLine ⟨done, .between⟩ = some ⟨done ++ [m], .between⟩ := by
  have hread := h.ofLine?_line
  cases hcomment : m.comment with
  | none =>
      rw [hcomment] at hread
      -- A comment opens with a slash, and no key begins with one.
      have hnotOpening : m.line ≠ Comment.openingLine := by
        intro heq
        rw [heq] at hread
        contradiction
      simp [Member.lines, hcomment, readLine, readMember, hnotOpening, hread]
  | some comment =>
      rw [hcomment] at hread
      have hstep : readLine ⟨done, .above comment⟩ m.line = some ⟨done ++ [m], .between⟩ := by
        simp [readLine, readMember, hread]
      rw [Member.lines, hcomment, List.foldlM_append, foldlM_block]
      show [m.line].foldlM readLine ⟨done, .above comment⟩ = _
      rw [List.foldlM_cons, hstep]
      rfl

theorem foldlM_flatMap_lines (h : ∀ m ∈ ms, m.FitsLine) (done : List Member) :
    (ms.flatMap Member.lines).foldlM readLine ⟨done, .between⟩ =
      some ⟨done ++ ms, .between⟩ := by
  induction ms generalizing done with
  | nil => simp
  | cons m rest ih =>
      obtain ⟨hm, hrest⟩ := List.forall_mem_cons.mp h
      rw [List.flatMap_cons, List.foldlM_append, foldlM_lines hm]
      show (rest.flatMap Member.lines).foldlM readLine ⟨done ++ [m], .between⟩ = _
      rw [ih hrest, List.append_assoc]
      rfl

end MemberReader

/-- Reads the lines between the braces.  If there are no members, there is an empty line. -/
def readMembers? (lines : List (List Char)) : Option (List Member) :=
  if lines = [[]] then some []
  else
    match lines.foldlM MemberReader.readLine ⟨[], .between⟩ with
    | some ⟨ms, .between⟩ => some ms
    | _ => none

/-- Reads the body of an interface. -/
def readBody? (text : String) : Option (List Member) :=
  match Comment.lines text.toList with
  | ['\x7b'] :: rest => if rest.getLast? = some ['\x7d'] then readMembers? rest.dropLast else none
  | _ => none

theorem Member.line_ne_nil (m : Member) : m.line ≠ [] := by
  simp [Member.line]

/-- A body is read back. -/
theorem readBody?_interfaceBody (h : ∀ m ∈ ms, m.FitsLine) :
    readBody? (interfaceBody ms) = some ms := by
  have hbody : (interfaceBody ms).toList =
      ['\x7b'] ++ '\n' :: (("\n".intercalate (ms.map Member.text)).toList ++ '\n' :: ['\x7d']) := by
    simp [interfaceBody]
  have hlines : Comment.lines (interfaceBody ms).toList =
      ['\x7b'] :: (Comment.lines ("\n".intercalate (ms.map Member.text)).toList ++ [['\x7d']]) := by
    rw [hbody, Comment.lines_append, Comment.lines_append]
    rfl
  have hmembers : readMembers? (Comment.lines ("\n".intercalate (ms.map Member.text)).toList) =
      some ms := by
    cases ms with
    | nil => rfl
    | cons first rest =>
        -- The line of a member has a colon, so it is not the empty line of an empty body.
        have hnonempty : (first :: rest).flatMap Member.lines ≠ [[]] := by
          intro heq
          have hmem : first.line ∈ (first :: rest).flatMap Member.lines :=
            List.mem_flatMap.mpr ⟨first, List.mem_cons_self, by simp [Member.lines]⟩
          rw [heq, List.mem_singleton] at hmem
          exact first.line_ne_nil hmem
        rw [lines_intercalate first rest h, readMembers?, if_neg hnonempty,
          MemberReader.foldlM_flatMap_lines h, List.nil_append]
  generalize Comment.lines ("\n".intercalate (ms.map Member.text)).toList = inner
    at hlines hmembers
  rw [readBody?, hlines]
  simpa using hmembers

/-! ## Bodies of a graph -/

/-- The members among the properties have keys, and expressions without a line break. -/
def FitLines (g : Graph) (properties : List Property) : Prop :=
  ∀ p ∈ properties, isMember p = true →
    p.key.isSome ∧ ∃ type, render g p.type = .ok type ∧ '\n' ∉ type.toList

/-- What the property is as a member.  It has a comment if there is one at its type and the
type has no name. -/
structure IsMemberOf (g : Graph) (p : Property) (m : Member) : Prop where
  comment : m.comment = inlineComment? g p.type
  key : m.key = p.key
  required : m.required = p.required
  type : render g p.type = .ok m.type

theorem IsMemberOf.rightUnique (g : Graph) : Relator.RightUnique (IsMemberOf g) := by
  rintro p ⟨comment, key, required, type⟩ ⟨comment', key', required', type'⟩ h h'
  obtain rfl : comment = comment' := h.comment.trans h'.comment.symm
  obtain rfl : key = key' := h.key.trans h'.key.symm
  obtain rfl : required = required' := h.required.trans h'.required.symm
  obtain rfl : type = type' := Except.ok.inj (h.type.symm.trans h'.type)
  rfl

theorem FitLines.members_eq_ok (h : FitLines g properties) :
    ∃ ms, members g (render g) properties = .ok ms ∧ (∀ m ∈ ms, m.FitsLine) ∧
      List.Forall₂ (IsMemberOf g) (properties.filter isMember) ms := by
  have hkept : ∀ p ∈ properties.filter isMember,
      p.key.isSome ∧ ∃ type, render g p.type = .ok type ∧ '\n' ∉ type.toList := by
    intro p hp
    obtain ⟨hmem, hmember⟩ := List.mem_filter.mp hp
    exact h p hmem hmember
  unfold members
  generalize properties.filter isMember = kept at hkept
  induction kept with
  | nil => exact ⟨[], rfl, by simp, .nil⟩
  | cons p rest ih =>
      obtain ⟨⟨hkey, type, htype, hfits⟩, hrest⟩ := List.forall_mem_cons.mp hkept
      obtain ⟨ms, hms, hlines, hforall⟩ := ih hrest
      let m : Member := ⟨inlineComment? g p.type, p.key, p.required, type⟩
      have hm : member g (render g) p = .ok m := by
        rw [member, htype]
        rfl
      refine ⟨m :: ms, ?_, List.forall_mem_cons.mpr ⟨⟨hkey, hfits⟩, hlines⟩,
        .cons ⟨rfl, rfl, rfl, htype⟩ hforall⟩
      rw [List.mapM_cons, hm, hms]
      rfl

/-- There is a body if the types of the members have expressions, and if these have no line
breaks, the members are read back from it, whatever their keys and their comments are.  So
bodies are different if their members are. -/
theorem renderInterfaceBody_reads_back (h : FitLines g properties) :
    ∃ text ms, renderInterfaceBody g properties = .ok text ∧ readBody? text = some ms ∧
      List.Forall₂ (IsMemberOf g) (properties.filter isMember) ms ∧
      ∀ g' properties', FitLines g' properties' →
        renderInterfaceBody g' properties' = .ok text →
        List.Forall₂ (IsMemberOf g') (properties'.filter isMember) ms := by
  have hbody : ∀ g' properties', FitLines g' properties' → ∃ text ms,
      renderInterfaceBody g' properties' = .ok text ∧ readBody? text = some ms ∧
        List.Forall₂ (IsMemberOf g') (properties'.filter isMember) ms := by
    intro g' properties' h'
    obtain ⟨ms, hms, hlines, hforall⟩ := h'.members_eq_ok
    refine ⟨interfaceBody ms, ms, ?_, readBody?_interfaceBody hlines, hforall⟩
    rw [renderInterfaceBody, hms]
    rfl
  obtain ⟨text, ms, htext, hread, hforall⟩ := hbody g properties h
  refine ⟨text, ms, htext, hread, hforall, fun g' properties' h' htext' => ?_⟩
  obtain ⟨text', ms', htext'', hread', hforall'⟩ := hbody g' properties' h'
  obtain rfl : text' = text := Except.ok.inj (htext''.symm.trans htext')
  obtain rfl : ms = ms' := Option.some.inj (hread.symm.trans hread')
  exact hforall'

/-- A string whose comment would end its block and begin a member, a map that is written in
another way, and a person, who has a name. -/
def letterGraph : Graph := ⟨#[
  ⟨.string, none, some "*/\n/**\nrequired: never\n"⟩,
  ⟨.custom "Map<string, number>", none, none⟩,
  ⟨.object, some "person", some "Whoever it is."⟩]⟩

/-- Keys that look like several members, and a property that is no member. -/
def letterProperties : List Property :=
  [⟨some "a\"?: null\nb\\", .node 0, true, false, false⟩,
    ⟨some "^x-", .value .null, true, true, false⟩,
    ⟨some "[k: string]", .node 1, false, false, false⟩,
    ⟨some "/**", .node 2, true, false, false⟩]

theorem letterProperties_reads_back :
    FitLines letterGraph letterProperties ∧
      ∃ text, renderInterfaceBody letterGraph letterProperties = .ok text ∧
        readBody? text = some
          [⟨some "*/\n/**\nrequired: never\n", some "a\"?: null\nb\\", true, "string"⟩,
            ⟨none, some "[k: string]", false, "Map<string, number>"⟩,
            ⟨none, some "/**", true, "Person"⟩] := by
  have hstring : render letterGraph (.node 0) = .ok "string" := rfl
  have hmap : render letterGraph (.node 1) = .ok "Map<string, number>" := rfl
  have hperson : render letterGraph (.node 2) = .ok "Person" :=
    congrArg Except.ok (show Identifier.ofName "person" = "Person" by decide +kernel)
  have hfits : FitLines letterGraph letterProperties := by
    intro p hp hmember
    simp only [letterProperties, List.mem_cons, List.not_mem_nil, or_false] at hp
    rcases hp with rfl | rfl | rfl | rfl
    · exact ⟨rfl, _, hstring, by decide⟩
    · contradiction
    · exact ⟨rfl, _, hmap, by decide⟩
    · exact ⟨rfl, _, hperson, by decide⟩
  obtain ⟨text, ms, htext, hread, hforall, -⟩ := renderInterfaceBody_reads_back hfits
  refine ⟨hfits, text, htext, hread.trans (congrArg some ?_)⟩
  apply (IsMemberOf.rightUnique letterGraph).forall₂ hforall
  exact .cons ⟨rfl, rfl, rfl, hstring⟩ (.cons ⟨rfl, rfl, rfl, hmap⟩
    (.cons ⟨rfl, rfl, rfl, hperson⟩ .nil))

end TypeExpr

end SchemaDecls
