import SchemaDecls.Declaration
import SchemaDecls.Proofs.LiteralReading

/-!
# Enums are read back

The declaration of an enum is read back line by line (`Declaration.readEnum?`): the comment above
it, the line with its name, a line for each member, and the closing brace.  All lines of a
comment are set off, so that none of them ends its block or is taken for the line with the name.
That line is read by its words, for there is no space in an identifier.

Members have commas at the ends of their lines, except for the last.  There may be commas within
a value as well, and brackets and quotes, but no line break: in strings they are escaped, and
nowhere else is there one.  So where a member ends is settled before its value is looked at.
-/

namespace SchemaDecls.Declaration

/-! ## The comment -/

/-- Reads the block of a comment if the lines open with one, and gives the lines below. -/
def readComment? : List (List Char) → Option (Option String × List (List Char))
  | [] => none
  | line :: lines =>
      if line = Comment.openingLine then
        match lines.dropWhile (· ≠ Comment.closingLine) with
        | [] => none
        | _ :: below =>
            ((lines.takeWhile (· ≠ Comment.closingLine)).mapM TypeExpr.MemberReader.within?).map
              fun texts => (some (String.ofList (['\n'].intercalate texts)), below)
      else some (none, line :: lines)

/-- What is set off can be told from the end of the block, and is read as it was. -/
theorem readComment?_block (comment : String) (below : List (List Char)) :
    readComment? (Comment.lines (Comment.block comment).toList ++ below) =
      some (some comment, below) := by
  have hinner : ∀ line ∈ (Comment.lines comment.toList).map Comment.setOff,
      decide (line ≠ Comment.closingLine) = true := by
    intro line hline
    obtain ⟨text, -, rfl⟩ := List.mem_map.mp hline
    simp [Comment.setOff, Comment.closingLine]
  have hend : ∀ line ∈ (Comment.closingLine :: below).head?,
      decide (line ≠ Comment.closingLine) = false := by
    simp
  obtain ⟨htake, hdrop⟩ := takeWhile_dropWhile_append hinner hend
  have hwithin : ((Comment.lines comment.toList).map Comment.setOff).mapM
      TypeExpr.MemberReader.within? = some (Comment.lines comment.toList) := by
    generalize Comment.lines comment.toList = texts
    induction texts with
    | nil => rfl
    | cons text texts ih => simp [Comment.setOff, TypeExpr.MemberReader.within?, ih]
  rw [Comment.lines_block, List.cons_append, List.append_assoc, List.singleton_append,
    readComment?, if_pos rfl, htake, hdrop, hwithin]
  simp [Comment.intercalate_lines]

/-! ## The line with the name -/

/-- The first line of an enum, below its comment. -/
def headLine (isConst : Bool) (name : String) : List Char :=
  (if isConst then "export const enum" else "export enum").toList ++
    ' ' :: (name.toList ++ [' ', '\x7b'])

/-- Reads the first line of an enum by its words. -/
def readHead? (line : List Char) : Option (Bool × String) :=
  match (line.splitOn ' ').map String.ofList with
  | ["export", "enum", name, "\x7b"] => some (false, name)
  | ["export", "const", "enum", name, "\x7b"] => some (true, name)
  | _ => none

theorem readHead?_headLine {name : String} (hname : ' ' ∉ name.toList) (isConst : Bool) :
    readHead? (headLine isConst name) = some (isConst, name) := by
  have hlast : (name.toList ++ [' ', '\x7b']).splitOn ' ' = [name.toList, ['\x7b']] := by
    rw [List.splitOn_append_cons_self, List.splitOn_eq_singleton hname]
    rfl
  rw [readHead?, headLine, List.splitOn_append_cons_self, hlast]
  cases isConst with
  | false =>
      have hwords : "export enum".toList.splitOn ' ' = ["export".toList, "enum".toList] := by decide
      rw [if_neg Bool.false_ne_true, hwords]
      simp
  | true =>
      have hwords : "export const enum".toList.splitOn ' ' =
          ["export".toList, "const".toList, "enum".toList] := by decide
      rw [if_pos rfl, hwords]
      simp

theorem notMem_headLine {name : String} (hname : '\n' ∉ name.toList) (isConst : Bool) :
    '\n' ∉ headLine isConst name := by
  cases isConst <;> simp [headLine, hname]

/-! ## Members -/

/-- The line of a member, without the comma at its end. -/
def memberLine (m : String × Value) : List Char := m.1.toList ++ ' ' :: '=' :: ' ' :: m.2.literal

/-- The key is an identifier, and there is no floating-point number in the value. -/
structure IsReadable (m : String × Value) : Prop where
  key : PropertyKey.isIdentifier m.1.toList = true
  value : m.2.FloatFree

/-- Reads the line of a member. -/
def readMember? (line : List Char) : Option (String × Value) :=
  (PropertyKey.read line).bind fun key =>
    match key.2 with
    | ' ' :: '=' :: ' ' :: text => (Value.ofJson? text).map fun v => (key.1, v)
    | _ => none

theorem IsReadable.readMember?_memberLine {m : String × Value} (h : IsReadable m) :
    readMember? (memberLine m) = some m := by
  have hstop : ∀ c ∈ (' ' :: '=' :: ' ' :: m.2.literal).head?, PropertyKey.isPart c = false := by
    simp [PropertyKey.isPart, Char.isAlphanum]
  have hkey := PropertyKey.read_of_isIdentifier h.key hstop
  rw [readMember?, memberLine, hkey, Option.bind_some]
  show (Value.ofJson? m.2.literal).map _ = _
  rw [Value.ofJson?_literal h.value, Option.map_some, String.ofList_toList]

theorem IsReadable.notMem_memberLine {m : String × Value} (h : IsReadable m) :
    '\n' ∉ memberLine m := by
  have hkey : '\n' ∉ m.1.toList := fun hbreak =>
    absurd (PropertyKey.isPart_of_isIdentifier h.key '\n' hbreak) (by decide)
  have hvalue : '\n' ∉ m.2.literal := fun hbreak =>
    absurd (Value.toNat_of_mem_literal h.value '\n' hbreak) (by decide)
  simp [memberLine, hkey, hvalue]

/-- Reads the lines of at least one member.  All but the last end with a comma. -/
def readMemberLines? : List (List Char) → Option (List (String × Value))
  | [] => none
  | [last] => (readMember? last).map fun m => [m]
  | line :: lines =>
      if line.getLast? = some ',' then
        (readMember? line.dropLast).bind fun m => (readMemberLines? lines).map fun ms => m :: ms
      else none

/-- Reads the lines between the braces.  If there are no members, there is an empty line. -/
def readEnumMembers? (lines : List (List Char)) : Option (List (String × Value)) :=
  if lines = [[]] then some [] else readMemberLines? lines

/-- What stands between the braces of an enum. -/
def memberList (ms : List (String × Value)) : List Char :=
  [',', '\n'].intercalate (ms.map memberLine)

theorem readMemberLines?_memberList {first : String × Value} {more : List (String × Value)}
    (h : ∀ m ∈ first :: more, IsReadable m) :
    readMemberLines? (Comment.lines (memberList (first :: more))) = some (first :: more) := by
  induction more generalizing first with
  | nil =>
      have hfirst := h first List.mem_cons_self
      simp [memberList, Comment.lines_of_notMem hfirst.notMem_memberLine, readMemberLines?,
        hfirst.readMember?_memberLine]
  | cons second more ih =>
      obtain ⟨hfirst, hmore⟩ := List.forall_mem_cons.mp h
      have hsplit : memberList (first :: second :: more) =
          (memberLine first ++ [',']) ++ '\n' :: memberList (second :: more) := by
        simp [memberList]
      have hline : '\n' ∉ memberLine first ++ [','] := by
        simpa using hfirst.notMem_memberLine
      have hread := ih hmore
      obtain ⟨line, lines, hlines⟩ : ∃ line lines,
          Comment.lines (memberList (second :: more)) = line :: lines :=
        List.exists_cons_of_ne_nil (List.splitOn_ne_nil '\n' _)
      rw [hlines] at hread
      rw [hsplit, Comment.lines_append, Comment.lines_of_notMem hline, hlines]
      simp [readMemberLines?, hfirst.readMember?_memberLine, hread]

theorem readEnumMembers?_memberList {ms : List (String × Value)} (h : ∀ m ∈ ms, IsReadable m) :
    readEnumMembers? (Comment.lines (memberList ms)) = some ms := by
  cases ms with
  | nil => rfl
  | cons first more =>
      have hread := readMemberLines?_memberList h
      have hnonempty : Comment.lines (memberList (first :: more)) ≠ [[]] := by
        intro heq
        rw [heq] at hread
        contradiction
      rw [readEnumMembers?, if_neg hnonempty, hread]

/-! ## Declarations -/

/-- What the declaration of an enum says. -/
structure EnumReading where
  comment : Option String
  isConst : Bool
  name : String
  members : List (String × Value)

/-- Reads the declaration of an enum. -/
def readEnum? (text : String) : Option EnumReading :=
  (readComment? (Comment.lines text.toList)).bind fun r =>
    match r.2 with
    | [] => none
    | head :: lines =>
        if lines.getLast? = some ['\x7d'] then
          (readHead? head).bind fun h =>
            (readEnumMembers? lines.dropLast).map fun ms => ⟨r.1, h.1, h.2, ms⟩
        else none

/-- The key and the expression of a member. -/
def memberText (m : String × Value) : String × String := (m.1, String.ofList m.2.literal)

theorem lines_enumText {name : String} (hname : '\n' ∉ name.toList) (isConst : Bool)
    (ms : List (String × Value)) :
    Comment.lines (enumText isConst name (ms.map memberText)).toList =
      headLine isConst name :: (Comment.lines (memberList ms) ++ [['\x7d']]) := by
  have hmembers :
      (",\n".intercalate ((ms.map memberText).map fun m => m.1 ++ " = " ++ m.2)).toList =
        memberList ms := by
    simp only [List.map_map, String.toList_intercalate, memberList]
    congr 2
    funext m
    simp [memberText, memberLine]
  have htext : (enumText isConst name (ms.map memberText)).toList =
      headLine isConst name ++ '\n' :: (memberList ms ++ '\n' :: ['\x7d']) := by
    rw [← hmembers]
    cases isConst <;> simp [enumText, headLine]
  rw [htext, Comment.lines_append, Comment.lines_append,
    Comment.lines_of_notMem (notMem_headLine hname isConst)]
  rfl

theorem readEnum?_commented {e : EnumReading}
    (hname : ∀ c ∈ e.name.toList, Identifier.isPart c = true)
    (hmembers : ∀ m ∈ e.members, IsReadable m) :
    readEnum? (commented e.comment (enumText e.isConst e.name (e.members.map memberText))) =
      some e := by
  obtain ⟨comment, isConst, name, ms⟩ := e
  have hspace : ' ' ∉ name.toList := fun h => absurd (hname ' ' h) (by decide)
  have hbreak : '\n' ∉ name.toList := fun h => absurd (hname '\n' h) (by decide)
  have hlines := lines_enumText hbreak isConst ms
  have hcomment : readComment? (Comment.lines
      (commented comment (enumText isConst name (ms.map memberText))).toList) =
      some (comment, Comment.lines (enumText isConst name (ms.map memberText)).toList) := by
    cases comment with
    | none =>
        -- No line that begins as this one does opens a block.
        have hnotOpening : headLine isConst name ≠ Comment.openingLine := by
          cases isConst <;> simp [headLine, Comment.openingLine]
        rw [commented, hlines, readComment?, if_neg hnotOpening]
    | some comment =>
        have htext : (commented (some comment) (enumText isConst name (ms.map memberText))).toList =
            (Comment.block comment).toList ++
              '\n' :: (enumText isConst name (ms.map memberText)).toList := by
          simp [commented]
        rw [htext, Comment.lines_append, readComment?_block]
  rw [readEnum?, hcomment, Option.bind_some, hlines]
  simp [readHead?_headLine hspace, readEnumMembers?_memberList hmembers]

/-! ## Enums of a graph -/

/-- The member is this constant: it has this key, and its value is an unnamed literal. -/
structure Holds (g : Graph) (m : EnumMember) (c : String × Value) : Prop where
  key : m.key = some c.1
  value : ∃ id n, g.item m.value = .node id n ∧ n.name = none ∧ n.shape = .literal c.2

theorem Holds.rightUnique (g : Graph) : Relator.RightUnique (Holds g) := by
  rintro m ⟨key, v⟩ ⟨key', v'⟩ ⟨hkey, id, n, hitem, -, hshape⟩ ⟨hkey', id', n', hitem', -, hshape'⟩
  obtain rfl : key = key' := Option.some.inj (hkey.symm.trans hkey')
  obtain ⟨-, rfl⟩ := Graph.item_inj hitem hitem'
  obtain rfl : v = v' := Shape.literal.inj (hshape.symm.trans hshape')
  rfl

variable {g : Graph} {o : Options} {n : Node} {members : List EnumMember}

theorem Holds.render_eq {m : EnumMember} {c : String × Value} (h : Holds g m c) :
    TypeExpr.render g m.value = .ok (String.ofList c.2.literal) := by
  obtain ⟨id, n, hitem, hname, hshape⟩ := h.value
  rw [TypeExpr.render, TypeExpr.depthOf, TypeExpr.renderUpTo_of_unnamed hitem hname, hshape]
  rfl

theorem Holds.enumMember_eq {m : EnumMember} {c : String × Value} (h : Holds g m c) :
    enumMember g m = .ok (memberText c) := by
  rw [enumMember, h.render_eq, h.key]
  rfl

/-- What the declaration of an enum should say. -/
structure DeclaredAs (g : Graph) (o : Options) (n : Node) (members : List EnumMember)
    (e : EnumReading) : Prop where
  comment : e.comment = n.comment?
  isConst : e.isConst = o.constEnums.truthy
  name : n.name.map Identifier.ofName = some e.name
  members : List.Forall₂ (Holds g) members e.members

theorem DeclaredAs.unique {e e' : EnumReading} (h : DeclaredAs g o n members e)
    (h' : DeclaredAs g o n members e') : e = e' := by
  obtain ⟨comment, isConst, name, ms⟩ := e
  obtain ⟨comment', isConst', name', ms'⟩ := e'
  obtain rfl : comment = comment' := h.comment.trans h'.comment.symm
  obtain rfl : isConst = isConst' := h.isConst.trans h'.isConst.symm
  obtain rfl : name = name' := Option.some.inj (h.name.symm.trans h'.name)
  obtain rfl : ms = ms' := (Holds.rightUnique g).forall₂ h.members h'.members
  rfl

/-- The members are constants with identifiers for keys, and there are no floating-point numbers
in their values. -/
def AreConstants (g : Graph) (members : List EnumMember) : Prop :=
  ∀ m ∈ members, ∃ c, Holds g m c ∧ IsReadable c

theorem AreConstants.mapM_eq (h : AreConstants g members) :
    ∃ cs : List (String × Value), members.mapM (enumMember g) = .ok (cs.map memberText) ∧
      (∀ c ∈ cs, IsReadable c) ∧ List.Forall₂ (Holds g) members cs := by
  induction members with
  | nil => exact ⟨[], rfl, by simp, .nil⟩
  | cons m rest ih =>
      obtain ⟨⟨c, hholds, hreadable⟩, hrest⟩ := List.forall_mem_cons.mp h
      obtain ⟨cs, hcs, hreadables, hforall⟩ := ih hrest
      refine ⟨c :: cs, ?_, List.forall_mem_cons.mpr ⟨hreadable, hreadables⟩, .cons hholds hforall⟩
      rw [List.mapM_cons, hholds.enumMember_eq, hcs]
      rfl

theorem AreConstants.ofEnum_eq (hname : n.name.isSome) (h : AreConstants g members) :
    ∃ text e, ofEnum g o n members = .ok text ∧ readEnum? text = some e ∧
      DeclaredAs g o n members e := by
  obtain ⟨name, hname⟩ := Option.isSome_iff_exists.mp hname
  obtain ⟨cs, hcs, hreadables, hforall⟩ := h.mapM_eq
  have hparts : ∀ c ∈ (Identifier.ofName name).toList, Identifier.isPart c = true := by
    intro c hc
    rw [Identifier.toList_ofName] at hc
    exact (Identifier.exists_of_mem_ofPlain hc).1
  let e : EnumReading := ⟨n.comment?, o.constEnums.truthy, Identifier.ofName name, cs⟩
  have hread := readEnum?_commented (e := e) hparts hreadables
  have hdeclared : DeclaredAs g o n members e :=
    ⟨rfl, rfl, congrArg (Option.map Identifier.ofName) hname, hforall⟩
  refine ⟨_, e, ?_, hread, hdeclared⟩
  rw [ofEnum, hcs, identifier, hname]
  rfl

/-- The declaration of an enum is read back, its comment and the values of its members included,
if the members are constants with identifiers for keys and there are no floating-point numbers in
them.  So declarations are different if what they say is.  Each value is read from its
expression alone, and in this there is no line break. -/
theorem ofEnum_reads_back (hname : n.name.isSome) (h : AreConstants g members) :
    ∃ text e, ofEnum g o n members = .ok text ∧ readEnum? text = some e ∧
      DeclaredAs g o n members e ∧
      (∀ m ∈ members, ∃ expression c, TypeExpr.render g m.value = .ok expression ∧
        (∀ d ∈ expression.toList, 0x20 ≤ d.toNat) ∧ Holds g m c ∧
        Value.ofJson? expression.toList = some c.2) ∧
      ∀ g' o' n' members', n'.name.isSome → AreConstants g' members' →
        ofEnum g' o' n' members' = .ok text → DeclaredAs g' o' n' members' e := by
  obtain ⟨text, e, htext, hread, hdeclared⟩ := h.ofEnum_eq hname
  refine ⟨text, e, htext, hread, hdeclared, ?_, ?_⟩
  · intro m hm
    obtain ⟨c, hholds, hreadable⟩ := h m hm
    refine ⟨_, c, hholds.render_eq, ?_, hholds, ?_⟩
    · rw [String.toList_ofList]
      exact Value.toNat_of_mem_literal hreadable.value
    · rw [String.toList_ofList]
      exact Value.ofJson?_literal hreadable.value
  · intro g' o' n' members' hname' h' htext'
    obtain ⟨text', e', htext'', hread', hdeclared'⟩ := h'.ofEnum_eq (o := o') hname'
    obtain rfl : text' = text := Except.ok.inj (htext''.symm.trans htext')
    obtain rfl : e = e' := Option.some.inj (hread.symm.trans hread')
    exact hdeclared'

/-- A value with a text in it that looks like the end of its member and of the enum. -/
def signalValue : Value :=
  .dict [("b", .list [.int (-12), .null, .bool true]), ("a\n\"", .str ",\nStop = 1\n\x7d")]

theorem signalValue_floatFree : signalValue.FloatFree := by
  have hlist : (Value.list [.int (-12), .null, .bool true]).FloatFree := by
    refine .list ?_
    simp only [List.forall_mem_cons]
    exact ⟨.int _, .null, .bool _, by simp⟩
  exact .dict (List.forall_mem_cons.mpr ⟨hlist, List.forall_mem_singleton.mpr (.str _)⟩)

/-- Two constants, one of them beyond every machine integer. -/
def signalGraph : Graph := ⟨#[
  ⟨.literal signalValue, none, none⟩,
  ⟨.literal (.int 36893488147419103232), none, some "Never in a row."⟩]⟩

def signalMembers : List EnumMember := [⟨some "Go", .node 0⟩, ⟨some "$stop_2", .node 1⟩]

/-- An enum whose comment would end its block and open another enum. -/
def signal : Node := ⟨.enum signalMembers, some "traffic signal", some " */\nexport enum A \x7b\n"⟩

theorem signal_reads_back :
    signal.name.isSome ∧ AreConstants signalGraph signalMembers ∧
      ∃ text, ofEnum signalGraph .default signal signalMembers = .ok text ∧
        readEnum? text = some ⟨some " */\nexport enum A \x7b\n", true, "TrafficSignal",
          [("Go", signalValue), ("$stop_2", .int 36893488147419103232)]⟩ := by
  have hgo : Holds signalGraph ⟨some "Go", .node 0⟩ ("Go", signalValue) :=
    ⟨rfl, 0, _, rfl, rfl, rfl⟩
  have hstop : Holds signalGraph ⟨some "$stop_2", .node 1⟩
      ("$stop_2", .int 36893488147419103232) :=
    ⟨rfl, 1, _, rfl, rfl, rfl⟩
  have hmembers : AreConstants signalGraph signalMembers :=
    List.forall_mem_cons.mpr ⟨⟨_, hgo, by decide, signalValue_floatFree⟩,
      List.forall_mem_singleton.mpr ⟨_, hstop, by decide, .int _⟩⟩
  have hname : signal.name.map Identifier.ofName = some "TrafficSignal" :=
    congrArg some (show Identifier.ofName "traffic signal" = "TrafficSignal" by decide +kernel)
  obtain ⟨text, e, htext, hread, hdeclared, -⟩ := ofEnum_reads_back (o := .default)
    (show signal.name.isSome from rfl) hmembers
  refine ⟨rfl, hmembers, text, htext, hread.trans (congrArg some ?_)⟩
  exact hdeclared.unique ⟨rfl, rfl, hname, .cons hgo (.cons hstop .nil)⟩

end SchemaDecls.Declaration
