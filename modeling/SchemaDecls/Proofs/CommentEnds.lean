import SchemaDecls.Proofs.MemberLists

/-!
# Where comments end

A comment block ends at the first terminator that stands in it, whoever put it there.  The
lines of a comment are written as they are, so a terminator in one of them ends the block too
early, and what is left of the comment is read as code (`Comment.spilled`).  Nothing else ends
it: the block itself has no terminator but its last two characters, and between the lines of a
comment it puts a line break and an asterisk with spaces around, so that no terminator comes
about where two lines meet.

To see this, a block is written with its comment in one piece (`Comment.toList_block`): the
characters between the first and the last line of the block are those of the comment, the
line breaks apart, which are indented (`Comment.hang`).
-/

namespace SchemaDecls

namespace Comment

/-! ## Terminators -/

/-- What ends a comment. -/
def terminator : List Char := ['*', '/']

/-- The first terminator of the text stands at its end. -/
def ClosesAtEnd (text : List Char) : Prop :=
  terminator <:+ text ∧ ∀ before after, text = before ++ terminator ++ after → after = []

/-- What follows the first terminator of a text. -/
def afterTerminator? : List Char → Option (List Char)
  | '*' :: '/' :: rest => some rest
  | _ :: rest => afterTerminator? rest
  | [] => none

/-- What is left of a text behind the comment that it opens with. -/
def behind? : List Char → Option (List Char)
  | '/' :: '*' :: rest => afterTerminator? rest
  | _ => none

theorem afterTerminator?_cons {c : Char} {rest : List Char}
    (h : ¬ (c = '*' ∧ rest.head? = some '/')) :
    afterTerminator? (c :: rest) = afterTerminator? rest := by
  rw [afterTerminator?]
  rintro tail rfl rfl
  exact h ⟨rfl, rfl⟩

/-- A terminator is found, and nothing that is found later is missed. -/
theorem afterTerminator?_append (before after : List Char) :
    ∃ rest, afterTerminator? (before ++ terminator ++ after) = some rest ∧ after <:+ rest := by
  induction before with
  | nil => exact ⟨after, rfl, List.suffix_refl after⟩
  | cons c before ih =>
      by_cases hends : c = '*' ∧ (before ++ terminator ++ after).head? = some '/'
      · obtain ⟨rfl, hslash⟩ := hends
        cases before with
        | nil => simp [terminator] at hslash
        | cons d before =>
            obtain rfl : d = '/' := by simpa using hslash
            exact ⟨before ++ terminator ++ after, rfl, List.suffix_append _ after⟩
      · rw [List.cons_append, List.cons_append, afterTerminator?_cons hends]
        exact ih

theorem afterTerminator?_eq_none_iff {text : List Char} :
    afterTerminator? text = none ↔ ¬ terminator <:+: text := by
  constructor
  · rintro h ⟨before, after, rfl⟩
    obtain ⟨rest, hrest, -⟩ := afterTerminator?_append before after
    rw [h] at hrest
    contradiction
  · intro h
    induction text with
    | nil => rfl
    | cons c rest ih =>
        have hends : ¬ (c = '*' ∧ rest.head? = some '/') := by
          rintro ⟨rfl, hslash⟩
          obtain ⟨tail, rfl⟩ := List.head?_eq_some_iff.mp hslash
          exact h ⟨[], tail, rfl⟩
        rw [afterTerminator?_cons hends]
        exact ih fun hinfix => h (List.infix_cons hinfix)

/-! ## Blocks in one piece -/

/-- The text with its line breaks indented as in a block. -/
def hang (text : List Char) : List Char :=
  text.flatMap fun c => if c = '\n' then ['\n', ' ', '*', ' '] else [c]

theorem hang_append (text more : List Char) : hang (text ++ more) = hang text ++ hang more :=
  List.flatMap_append

theorem hang_terminator : hang terminator = terminator := rfl

/-- The lines of a block hold the text, indented. -/
theorem flatMap_blockLine (text : List Char) :
    (lines text).flatMap blockLine = [' ', '*', ' '] ++ hang text ++ ['\n'] := by
  induction text with
  | nil => rfl
  | cons c rest ih =>
      obtain ⟨first, others, hlines⟩ := List.exists_cons_of_ne_nil (List.splitOn_ne_nil '\n' rest)
      rw [lines, hlines] at ih
      rw [lines, List.splitOn_cons_eq_if_modifyHead, hlines]
      by_cases hc : c = '\n'
      · simpa [hc, hang, blockLine] using ih
      · simpa [hc, hang, blockLine] using ih

theorem toList_block (comment : String) :
    (block comment).toList =
      ['/', '*', '*', '\n', ' ', '*', ' '] ++ hang comment.toList ++ ['\n', ' '] ++ terminator := by
  simp [block, flatMap_blockLine, terminator]

/-- What is left of a comment behind the end of its block. -/
def spilled (text : List Char) : List Char :=
  match afterTerminator? text with
  | some rest => hang rest ++ ['\n', ' '] ++ terminator
  | none => []

theorem head?_hang_append (text more : List Char) (hmore : more.head? = some '\n') :
    (hang text ++ more).head? = some '/' ↔ text.head? = some '/' := by
  cases text with
  | nil => simp [hang, hmore]
  | cons c rest =>
      by_cases hc : c = '\n'
      · subst hc
        simp [hang]
      · simp [hang, hc]

/-- The first terminator of an indented text is that of the text, and if there is none, that of
the block. -/
theorem afterTerminator?_hang (text more : List Char) :
    afterTerminator? (hang text ++ (['\n', ' '] ++ terminator ++ more)) =
      some (spilled text ++ more) := by
  induction text with
  | nil => rfl
  | cons c rest ih =>
      by_cases hends : c = '*' ∧ rest.head? = some '/'
      · obtain ⟨rfl, hslash⟩ := hends
        obtain ⟨tail, rfl⟩ := List.head?_eq_some_iff.mp hslash
        simp [spilled, afterTerminator?, hang]
      · have hspilled : spilled (c :: rest) = spilled rest := by
          rw [spilled, afterTerminator?_cons hends]
          rfl
        rw [hspilled, ← ih]
        by_cases hc : c = '\n'
        · subst hc
          rfl
        · have hhang : hang (c :: rest) = c :: hang rest := by simp [hang, hc]
          rw [hhang, List.cons_append, afterTerminator?_cons]
          rwa [head?_hang_append rest _ rfl]

theorem behind?_block (comment : String) (more : List Char) :
    behind? ((block comment).toList ++ more) = some (spilled comment.toList ++ more) := by
  rw [← afterTerminator?_hang, toList_block]
  simp only [List.cons_append, List.nil_append, List.append_assoc]
  rfl

theorem spilled_eq_nil_iff {text : List Char} : spilled text = [] ↔ ¬ terminator <:+: text := by
  rw [← afterTerminator?_eq_none_iff, spilled]
  cases afterTerminator? text <;> simp [terminator]

/-! ## Blocks that end too early -/

theorem closesAtEnd_block_iff {comment : String} :
    ClosesAtEnd (block comment).toList ↔ ¬ Occurs "*/" comment := by
  constructor
  · rintro ⟨-, honly⟩ hoccurs
    obtain ⟨before, after, hsplit⟩ : terminator <:+: comment.toList := hoccurs
    have hblock : (block comment).toList =
        (['/', '*', '*', '\n', ' ', '*', ' '] ++ hang before) ++ terminator ++
          (hang after ++ ['\n', ' '] ++ terminator) := by
      rw [toList_block, ← hsplit, hang_append, hang_append, hang_terminator]
      simp
    have hnil := honly _ _ hblock
    simp [terminator] at hnil
  · intro hnot
    refine ⟨⟨_, (toList_block comment).symm⟩, ?_⟩
    intro before after hsplit
    obtain ⟨rest, hrest, hsuffix⟩ := afterTerminator?_append before after
    have hfirst : afterTerminator? (block comment).toList = some (spilled comment.toList) := by
      have hhang := afterTerminator?_hang comment.toList []
      rw [List.append_nil, List.append_nil] at hhang
      rw [← hhang, toList_block]
      simp only [List.cons_append, List.nil_append, List.append_assoc]
      rfl
    rw [← hsplit, hfirst, spilled_eq_nil_iff.mpr hnot] at hrest
    obtain rfl := Option.some.inj hrest
    exact List.suffix_nil.mp hsuffix

/-- The block of a comment closes at its end, and nothing of the comment is read as code behind
it, exactly if there is no terminator in the comment.  This holds for the comment above a
declaration and above a member of an interface alike.  Behind both, what is read as code is
the declaration or the member itself, and in front of it whatever has been spilled. -/
theorem block_closes_at_end_iff (comment : String) :
    (ClosesAtEnd (block comment).toList ↔ ¬ Occurs "*/" comment) ∧
      (spilled comment.toList = [] ↔ ¬ Occurs "*/" comment) ∧
      (∀ declaration, behind? (Declaration.commented (some comment) declaration).toList =
        some (spilled comment.toList ++ '\n' :: declaration.toList)) ∧
      ∀ m : TypeExpr.Member, m.comment = some comment →
        behind? m.text.toList = some (spilled comment.toList ++ '\n' :: m.line) := by
  refine ⟨closesAtEnd_block_iff, spilled_eq_nil_iff, ?_, ?_⟩
  · intro declaration
    rw [← behind?_block]
    simp [Declaration.commented]
  · intro m hcomment
    rw [TypeExpr.Member.toList_text_of_some hcomment, behind?_block]

/-- A comment that is a terminator ends its block in the line that it stands in, and the last
line of the block is read as code. -/
theorem block_of_terminator_closes_early :
    ¬ ClosesAtEnd (block "*/").toList ∧
      behind? (block "*/").toList = some ['\n', ' ', '*', '/'] := by
  refine ⟨?_, by decide +kernel⟩
  rintro ⟨-, honly⟩
  have hnil := honly ['/', '*', '*', '\n', ' ', '*', ' '] ['\n', ' ', '*', '/'] (by decide +kernel)
  contradiction

end Comment

end SchemaDecls
