import SchemaDecls.Proofs.Depiction
import SchemaDecls.Proofs.Enclosure
import SchemaDecls.Proofs.MemberLists
import SchemaDecls.Proofs.Raising

/-!
# What the suffix of an array applies to

An array is written as its element with square brackets behind it.  The brackets apply to the
whole element only if no operator stands outside in the text of the element.

Whatever is put together by the expansion is either a name of some kind or has brackets or
quotes around it.  There are two exceptions.  The element of an array, and a single member of
a union or an intersection, stand there with nothing in front (`Shape.sole?`).  And the texts
of references and of custom types are taken over as they are.  So an operator stands outside
exactly if the element comes down to such a text in which one stands outside
(`TypeExpr.operator_outside_array_iff`).  Texts that leave a bracket, a quote or a block
comment open are left aside, for they can undo any bracket that is put around them.  So are
texts that break off behind a slash or an equals sign, where only half of what begins a
comment or an arrow has been read, and comments that end their block (`TypeExpr.Legible`).
-/

namespace SchemaDecls

/-! ## Names, numbers and literals -/

theorem settles_ofName (name : String) : Settles (Identifier.ofName name).toList false := by
  apply Settles.of_class (p := Identifier.isPart) (by decide)
  intro c hc
  rw [Identifier.toList_ofName] at hc
  exact (Identifier.exists_of_mem_ofPlain hc).1

namespace Numeral

/-- The character may stand in the text of a number. -/
def isNumeric (c : Char) : Bool := c.isDigit || c ∈ ['.', '-', '+', 'e']

theorem isNumeric_of_mem_digitsOf {n : Nat} {c : Char} (h : c ∈ digitsOf n) :
    isNumeric c = true := by
  simp [isNumeric, Nat.isDigit_of_mem_toDigits (by decide) (by decide) h]

theorem isNumeric_of_mem_integer {n : Int} {c : Char} (h : c ∈ integer n) :
    isNumeric c = true := by
  unfold integer at h
  split at h
  · rcases List.mem_cons.mp h with rfl | h
    · decide
    · exact isNumeric_of_mem_digitsOf h
  · exact isNumeric_of_mem_digitsOf h

theorem isNumeric_of_mem_positional {digits : List Char}
    (h : ∀ c ∈ digits, isNumeric c = true) (point : Int) :
    ∀ c ∈ positional digits point, isNumeric c = true := by
  have hzeros : ∀ n, ∀ c ∈ List.replicate n '0', isNumeric c = true := by
    intro n c hc
    rw [List.eq_of_mem_replicate hc]
    decide
  have hzero : isNumeric '0' = true := by decide
  have hpoint : isNumeric '.' = true := by decide
  unfold positional
  split_ifs
  · simp only [List.mem_cons, List.mem_append]
    rintro c (rfl | rfl | hc | hc)
    exacts [hzero, hpoint, hzeros _ c hc, h c hc]
  · simp only [List.mem_append, List.mem_cons, List.not_mem_nil, or_false]
    rintro c ((hc | hc) | rfl | rfl)
    exacts [h c hc, hzeros _ c hc, hpoint, hzero]
  · simp only [List.mem_append, List.mem_cons]
    rintro c (hc | rfl | hc)
    exacts [h c (List.mem_of_mem_take hc), hpoint, h c (List.mem_of_mem_drop hc)]

theorem isNumeric_of_mem_scientific {digits : List Char}
    (h : ∀ c ∈ digits, isNumeric c = true) (e : Int) :
    ∀ c ∈ scientific digits e, isNumeric c = true := by
  have hexponent : ∀ c ∈ (if (digitsOf e.natAbs).length < 2 then '0' :: digitsOf e.natAbs
      else digitsOf e.natAbs), isNumeric c = true := by
    split
    · exact List.forall_mem_cons.mpr ⟨by decide, fun _ hc => isNumeric_of_mem_digitsOf hc⟩
    · exact fun _ hc => isNumeric_of_mem_digitsOf hc
  have htail : ∀ c ∈ 'e' :: (if e < 0 then '-' else '+') ::
      (if (digitsOf e.natAbs).length < 2 then '0' :: digitsOf e.natAbs
        else digitsOf e.natAbs), isNumeric c = true := by
    refine List.forall_mem_cons.mpr ⟨by decide, List.forall_mem_cons.mpr ⟨?_, hexponent⟩⟩
    split <;> decide
  unfold scientific
  refine List.forall_mem_append.mpr ⟨?_, htail⟩
  match digits, h with
  | [], h => exact h
  | [d], h => exact h
  | d :: d' :: rest, h =>
      obtain ⟨hd, hrest⟩ := List.forall_mem_cons.mp h
      exact List.forall_mem_cons.mpr ⟨hd, List.forall_mem_cons.mpr ⟨by decide, hrest⟩⟩

theorem isNumeric_of_mem_layout (d : Decimal) : ∀ c ∈ layout d, isNumeric c = true := by
  have hdigits : ∀ c ∈ dropTrailingZeros (digitsOf d.digits), isNumeric c = true := by
    intro c hc
    rw [dropTrailingZeros, List.mem_reverse] at hc
    exact isNumeric_of_mem_digitsOf (List.mem_reverse.mp ((List.dropWhile_suffix _).subset hc))
  unfold layout
  dsimp only
  split
  · exact isNumeric_of_mem_positional hdigits _
  · exact isNumeric_of_mem_scientific hdigits _

theorem settles_of_isNumeric {text : List Char} (h : ∀ c ∈ text, isNumeric c = true) :
    Settles text false :=
  .of_class (by decide) h

theorem settles_render {specials : Specials} (hnan : Settles specials.nan.toList false)
    (hinfinity : Settles specials.infinity.toList false) (x : Float) :
    Settles (render specials x).toList false := by
  have hsign : Settles (if x.toBits >>> 63 == 0 then "" else "-").toList false := by
    split
    · exact .nil
    · exact settles_of_isNumeric (by simp [isNumeric])
  have hzero : Settles "0.0".toList false :=
    settles_of_isNumeric (List.all_eq_true.mp (by decide))
  unfold render
  dsimp only
  generalize (if x.toBits >>> 63 == 0 then "" else "-") = sign at hsign ⊢
  split_ifs
  · exact hnan
  · rw [String.toList_append]
    exact hsign.append hinfinity
  · rw [String.toList_append]
    exact hsign.append hzero
  · rw [String.toList_append, String.toList_ofList]
    exact hsign.append (settles_of_isNumeric (isNumeric_of_mem_layout _))

end Numeral

namespace Value

theorem isClosed_commaSeparated {texts : List (List Char)} (h : ∀ t ∈ texts, IsClosed t) :
    IsClosed (commaSeparated texts) :=
  .intercalate (Settles.of_class (p := (· == ',')) (by decide) (by simp)).isClosed h

mutual

theorem settles_literal : ∀ v : Value, Settles v.literal false
  | .null => settles_inert rfl
  | .bool true => settles_inert rfl
  | .bool false => settles_inert rfl
  | .int n => Numeral.settles_of_isNumeric fun _ hc => Numeral.isNumeric_of_mem_integer hc
  | .float x => by
      rw [literal]
      exact Numeral.settles_render (settles_inert rfl)
        (settles_inert rfl) x
  | .str s => settles_quoted s.toList
  | .list items => by
      rw [literal]
      exact IsClosed.enclose rfl (isClosed_commaSeparated (isClosed_literals items))
  | .dict entries => by
      rw [literal]
      exact IsClosed.enclose rfl (isClosed_commaSeparated (isClosed_literalEntries entries))

theorem isClosed_literals : ∀ items : List Value, ∀ t ∈ literals items, IsClosed t
  | [], _, h => by rw [literals] at h; contradiction
  | v :: rest, t, h => by
      rw [literals] at h
      rcases List.mem_cons.mp h with rfl | h
      · exact (settles_literal v).isClosed
      · exact isClosed_literals rest t h

theorem isClosed_literalEntries :
    ∀ entries : List (String × Value), ∀ t ∈ literalEntries entries, IsClosed t
  | [], _, h => by rw [literalEntries] at h; contradiction
  | (k, v) :: rest, t, h => by
      rw [literalEntries] at h
      rcases List.mem_cons.mp h with rfl | h
      · exact ((settles_quoted k.toList).append ((settles_literal v).cons (by decide))).isClosed
      · exact isClosed_literalEntries rest t h

end

end Value

/-! ## Members of interfaces -/

theorem settles_key (key : Option String) : Settles (PropertyKey.render key).toList false := by
  cases key with
  | none => exact settles_inert rfl
  | some key =>
      unfold PropertyKey.render
      dsimp only
      split_ifs with hbare
      · rcases Bool.or_eq_true_iff.mp hbare with hident | hindex
        · exact .of_class (by decide) (PropertyKey.isPart_of_isIdentifier hident)
        · have hinner : Settles "k: string".toList false := settles_inert rfl
          rw [eq_of_beq hindex]
          exact IsClosed.enclose rfl hinner.isClosed
      · rw [String.toList_ofList]
        exact settles_quoted key.toList

namespace TypeExpr

theorem isClosed_line {m : Member} (htype : IsClosed m.type.toList) : IsClosed m.line := by
  have hmark : IsClosed (if m.required then [] else ['?']) := by
    split
    · exact Settles.nil.isClosed
    · exact (Settles.nil.cons (by decide)).isClosed
  have hcolon : IsClosed [':', ' '] := ((Settles.nil.cons (by decide)).cons (by decide)).isClosed
  exact ((settles_key m.key).isClosed.append hmark).append (hcolon.append htype)

/-- A member is closed, whatever its key is, unless its comment ends within its block. -/
theorem isClosed_member {m : Member} (hcomment : ∀ comment ∈ m.comment, ¬ Occurs "*/" comment)
    (htype : IsClosed m.type.toList) : IsClosed m.text.toList := by
  cases hm : m.comment with
  | none =>
      rw [Member.toList_text_of_none hm]
      exact isClosed_line htype
  | some comment =>
      have hblock : IsClosed (Comment.block comment).toList :=
        (settles_block (hcomment comment hm)).isClosed
      have hbreak : IsClosed ['\n'] := (Settles.nil.cons (by decide)).isClosed
      rw [Member.toList_text_of_some hm]
      exact hblock.append (hbreak.append (isClosed_line htype))

end TypeExpr

/-! ## One level of an expansion -/

/-- The text that a shape is written as, where it is taken over as it is. -/
def Shape.payload? : Shape → Option String
  | .reference text | .custom text => some text
  | _ => none

/-- The child that a shape is written as, with no brackets around it. -/
def Shape.sole? : Shape → Option Child
  | .array element => some element
  | .union [member] | .intersection [member] => some member
  | _ => none

namespace TypeExpr

variable {g : Graph} {f : Child → Except Failure String} {s : Shape} {text : String}

theorem expandWith_of_payload (h : s.payload? = some text) : expandWith g f s = .ok text := by
  cases s with
  | reference text' => exact congrArg Except.ok (Option.some.inj h)
  | custom text' => exact congrArg Except.ok (Option.some.inj h)
  | _ => contradiction

theorem mem_written_of_sole {c : Child} (h : s.sole? = some c) : c ∈ s.written := by
  unfold Shape.sole? at h
  split at h
  case h_4 => contradiction
  all_goals
    rw [← Option.some.inj h]
    exact List.mem_singleton_self _

/-- A sole child stands in front, and what comes behind it shows no operator. -/
theorem expandWith_of_sole {c : Child} (hsole : s.sole? = some c)
    (h : expandWith g f s = .ok text) :
    ∃ front suffix, f c = .ok front ∧ text.toList = front.toList ++ suffix ∧
      Settles suffix false := by
  have hsingle : ∀ (member : Child) (separator : String), some member = some c →
      ([member].mapM f).map (setOperation separator) = .ok text → f c = .ok text := by
    intro member separator heq h
    obtain rfl := Option.some.inj heq
    obtain ⟨parts, hparts, rfl⟩ := map_eq_ok h
    obtain ⟨part, hpart, hparts⟩ := bind_eq_ok hparts
    obtain rfl := Except.ok.inj hparts
    exact hpart
  unfold Shape.sole? at hsole
  split at hsole
  next element =>
    obtain rfl := Option.some.inj hsole
    obtain ⟨front, hfront, rfl⟩ := map_eq_ok h
    exact ⟨front, "[]".toList, hfront, String.toList_append,
      IsClosed.enclose rfl Settles.nil.isClosed⟩
  next member => exact ⟨text, [], hsingle member unionSeparator hsole h, by simp, .nil⟩
  next member => exact ⟨text, [], hsingle member intersectionSeparator hsole h, by simp, .nil⟩
  next => contradiction

/-- Closed texts with a separator between them. -/
theorem isClosed_intercalate {separator : String} {parts : List String}
    (hseparator : separator.toList.all isInert = true)
    (hparts : ∀ part ∈ parts, IsClosed part.toList) :
    IsClosed (separator.intercalate parts).toList := by
  rw [String.toList_intercalate]
  exact .intercalate (settles_inert hseparator).isClosed (List.forall_mem_map.mpr hparts)

theorem settles_setOperation {separator : String} {parts : List String}
    (hseparator : separator.toList.all isInert = true)
    (hparts : ∀ part ∈ parts, IsClosed part.toList) (hseveral : ∀ part, parts ≠ [part]) :
    Settles (setOperation separator parts).toList false := by
  unfold setOperation
  split
  next part => exact absurd rfl (hseveral part)
  next =>
    simp only [String.toList_append, List.append_assoc]
    exact IsClosed.enclose rfl (isClosed_intercalate hseparator hparts)

theorem settles_tuple {parts : List String} (hparts : ∀ part ∈ parts, IsClosed part.toList) :
    Settles (tuple parts).toList false := by
  simp only [tuple, String.toList_append, List.append_assoc]
  exact IsClosed.enclose rfl (isClosed_intercalate rfl hparts)

theorem settles_interfaceBody {ms : List Member} (hms : ∀ m ∈ ms, IsClosed m.text.toList) :
    Settles (interfaceBody ms).toList false := by
  have hbreak : IsClosed ['\n'] := (Settles.nil.cons (by decide)).isClosed
  have hinner : IsClosed ("\n".intercalate (ms.map Member.text)).toList :=
    isClosed_intercalate rfl (List.forall_mem_map.mpr hms)
  have htext : (interfaceBody ms).toList = '\x7b' ::
      (['\n'] ++ ("\n".intercalate (ms.map Member.text)).toList ++ ['\n'] ++ ['\x7d']) := by
    simp [interfaceBody]
  rw [htext]
  exact IsClosed.enclose rfl ((hbreak.append hinner).append hbreak)

/-- Whatever is neither taken over as it is nor stands for a sole child hides all operators. -/
theorem settles_expandWith (hpayload : s.payload? = none) (hsole : s.sole? = none)
    (hchildren : ∀ c ∈ s.written, ∀ part, f c = .ok part → IsClosed part.toList)
    (hcomments : ∀ properties superTypes, s = .interface properties superTypes →
      ∀ p ∈ properties.filter isMember, ∀ comment ∈ inlineComment? g p.type,
        ¬ Occurs "*/" comment)
    (h : expandWith g f s = .ok text) : Settles text.toList false := by
  have hparts : ∀ {children parts}, s.written = children → children.mapM f = .ok parts →
      ∀ part ∈ parts, IsClosed part.toList := by
    intro children parts hwritten hparts part hpart
    obtain ⟨c, hc, hfc⟩ := exists_of_mem_of_mapM_eq_ok hparts hpart
    exact hchildren c (hwritten ▸ hc) part hfc
  -- A single child is a sole one, so there are none or several.
  have hset : ∀ (children : List Child) (separator : String),
      separator.toList.all isInert = true → s.written = children →
      (∀ child, children ≠ [child]) →
      (children.mapM f).map (setOperation separator) = .ok text → Settles text.toList false := by
    intro children separator hseparator hwritten hseveral h
    obtain ⟨parts, hmapM, rfl⟩ := map_eq_ok h
    refine settles_setOperation hseparator (hparts hwritten hmapM) ?_
    rintro part rfl
    obtain ⟨child, rfl⟩ := List.length_eq_one_iff.mp (length_eq_of_mapM_eq_ok hmapM).symm
    exact hseveral child rfl
  have hword : ∀ word : String, word.toList.all isInert = true →
      word.toList.any isOperator = false → expandWith g f s = .ok word →
      Settles text.toList false := by
    intro word hinert hnone hword
    obtain rfl : word = text := Except.ok.inj (hword.symm.trans h)
    exact hnone ▸ settles_inert hinert
  cases s with
  | any => exact hword "any" rfl rfl rfl
  | boolean => exact hword "boolean" rfl rfl rfl
  | number => exact hword "number" rfl rfl rfl
  | null => exact hword "null" rfl rfl rfl
  | object => exact hword "object" rfl rfl rfl
  | string => exact hword "string" rfl rfl rfl
  | literal v =>
      obtain rfl : String.ofList v.literal = text := Except.ok.inj h
      rw [String.toList_ofList]
      exact Value.settles_literal v
  | tuple children =>
      obtain ⟨parts, hmapM, rfl⟩ := map_eq_ok h
      exact settles_tuple (hparts rfl hmapM)
  | union children =>
      exact hset children unionSeparator rfl rfl (by rintro child rfl; contradiction) h
  | intersection children =>
      exact hset children intersectionSeparator rfl rfl (by rintro child rfl; contradiction) h
  | interface properties superTypes =>
      obtain ⟨ms, hms, rfl⟩ := map_eq_ok h
      apply settles_interfaceBody
      intro m hm
      obtain ⟨p, hp, hpm⟩ := exists_of_mem_of_mapM_eq_ok hms hm
      obtain ⟨type, htype, hpm⟩ := bind_eq_ok hpm
      obtain rfl := Except.ok.inj hpm
      have hwritten : p.type ∈ (Shape.interface properties superTypes).written :=
        List.mem_append_left _ (List.mem_map_of_mem hp)
      exact isClosed_member (hcomments properties superTypes rfl p hp)
        (hchildren p.type hwritten type htype)
  | _ => contradiction

/-! ## All levels of an expansion -/

/-- The expansion of the child is this text, taken over as it is, with nothing around it but
the brackets of arrays behind it. -/
inductive ComesDownTo (g : Graph) : Child → String → Prop
  | payload {c : Child} {id : NodeId} {n : Node} {text : String}
      (hitem : g.item c = .node id n) (hname : n.name = none)
      (hpayload : n.shape.payload? = some text) : ComesDownTo g c text
  | inside {c next : Child} {id : NodeId} {n : Node} {text : String}
      (hitem : g.item c = .node id n) (hname : n.name = none) (hsole : n.shape.sole? = some next)
      (hrest : ComesDownTo g next text) : ComesDownTo g c text

/-- What an expansion takes over can be read.  The texts that are taken over open and close
their brackets, strings and block comments, and do not break off behind a slash or an equals
sign with which a comment or an arrow may begin (`operatorOutside?`).  The comments that are
written in it do not end their blocks. -/
structure Legible (g : Graph) (c : Child) : Prop where
  payload : ∀ {d id n text}, Meets g c d → g.item d = .node id n → n.name = none →
    n.shape.payload? = some text → ∃ outside, operatorOutside? text = some outside
  comment : ∀ {d id n properties superTypes p comment}, Meets g c d →
    g.item d = .node id n → n.name = none → n.shape = .interface properties superTypes →
    p ∈ properties → isMember p = true → inlineComment? g p.type = some comment →
    ¬ Occurs "*/" comment

variable {c d element : Child} {levels : Nat} {id : NodeId} {n : Node}

theorem Legible.of_written (h : Legible g c) (hitem : g.item c = .node id n)
    (hname : n.name = none) (hd : d ∈ n.shape.written) : Legible g d where
  payload hmeets := h.payload (.inside hitem hname hd hmeets)
  comment hmeets := h.comment (.inside hitem hname hd hmeets)

/-- If all nodes of a graph can be read, so can its expansions. -/
theorem legible_of_forall
    (hpayload : ∀ n ∈ g.nodes, ∀ text, n.shape.payload? = some text →
      ∃ outside, operatorOutside? text = some outside)
    (hcomment : ∀ n ∈ g.nodes, ∀ comment, n.comment? = some comment → ¬ Occurs "*/" comment) :
    Legible g c where
  payload _ hitem _ htext := hpayload _ (Array.mem_of_getElem? (Graph.get?_of_item hitem)) _ htext
  comment := by
    intro d id n properties superTypes p comment _ _ _ _ _ _ h
    unfold inlineComment? at h
    split at h
    next m hm =>
      split at h
      · contradiction
      · exact hcomment m (Array.mem_of_getElem? (Graph.get?_of_item hm)) comment h
    next => contradiction

theorem comesDownTo_iff (hitem : g.item c = .node id n) (hname : n.name = none) :
    ComesDownTo g c text ↔ n.shape.payload? = some text ∨
      ∃ next, n.shape.sole? = some next ∧ ComesDownTo g next text := by
  constructor
  · intro h
    cases h with
    | payload hitem' _ hpayload =>
        obtain ⟨-, rfl⟩ := Graph.item_inj hitem hitem'
        exact .inl hpayload
    | inside hitem' _ hsole hrest =>
        obtain ⟨-, rfl⟩ := Graph.item_inj hitem hitem'
        exact .inr ⟨_, hsole, hrest⟩
  · rintro (hpayload | ⟨next, hsole, hrest⟩)
    · exact .payload hitem hname hpayload
    · exact .inside hitem hname hsole hrest

theorem ComesDownTo.exists_unnamed (h : ComesDownTo g c text) :
    ∃ id n, g.item c = .node id n ∧ n.name = none := by
  cases h with
  | payload hitem hname => exact ⟨_, _, hitem, hname⟩
  | inside hitem hname => exact ⟨_, _, hitem, hname⟩

theorem sole?_of_payload {s : Shape} (h : s.payload? = some text) : s.sole? = none := by
  cases s with
  | reference text' => rfl
  | custom text' => rfl
  | _ => contradiction

/-- An operator stands outside in an expression exactly if it stands outside in a text that
the expression comes down to. -/
theorem Expands.settles (h : Expands g levels c (.ok text)) (hlegible : Legible g c) :
    ∃ outside, Settles text.toList outside ∧
      (outside = true ↔ ∃ payload, ComesDownTo g c payload ∧
        operatorOutside? payload = some true) := by
  -- That operators are hidden by brackets needs all children to be closed, not only a sole one,
  -- so that the induction is on the whole expansion and not on `ComesDownTo`.
  generalize hresult : Except.ok text = result at h
  induction h generalizing text with
  | value hitem => contradiction
  | @named levels c id n name hitem hname =>
      obtain rfl := Except.ok.inj hresult
      refine ⟨false, settles_ofName name, ?_⟩
      simp only [Bool.false_eq_true, false_iff]
      rintro ⟨payload, hdown, -⟩
      obtain ⟨id', n', hitem', hname'⟩ := hdown.exists_unnamed
      obtain ⟨-, rfl⟩ := Graph.item_inj hitem hitem'
      rw [hname] at hname'
      contradiction
  | @unnamed levels c id n childText hitem hname _ ih =>
      have hchild : ∀ d ∈ n.shape.written, ∀ part, childText d = .ok part →
          ∃ outside, Settles part.toList outside ∧
            (outside = true ↔ ∃ payload, ComesDownTo g d payload ∧
              operatorOutside? payload = some true) :=
        fun d hd part hpart => ih d hd (hlegible.of_written hitem hname hd) hpart.symm
      simp only [comesDownTo_iff hitem hname]
      cases hpayload : n.shape.payload? with
      | some payload =>
          obtain rfl : text = payload :=
            Except.ok.inj (hresult.trans (expandWith_of_payload hpayload))
          obtain ⟨outside, houtside⟩ := hlegible.payload .here hitem hname hpayload
          refine ⟨outside, settles_of_operatorOutside? houtside, ?_⟩
          simp [sole?_of_payload hpayload, houtside]
      | none =>
          cases hsole : n.shape.sole? with
          | some next =>
              obtain ⟨front, suffix, hfront, htext, hsuffix⟩ :=
                expandWith_of_sole hsole hresult.symm
              obtain ⟨outside, hsettles, hdown⟩ :=
                hchild next (mem_written_of_sole hsole) front hfront
              refine ⟨outside, ?_, by simpa using hdown⟩
              simpa [htext] using hsettles.append hsuffix
          | none =>
              have hclosed : ∀ d ∈ n.shape.written, ∀ part, childText d = .ok part →
                  IsClosed part.toList := by
                intro d hd part hpart
                obtain ⟨outside, hsettles, -⟩ := hchild d hd part hpart
                exact hsettles.isClosed
              refine ⟨false, settles_expandWith hpayload hsole hclosed ?_ hresult.symm, by simp⟩
              intro properties superTypes hshape p hp comment hcomment
              obtain ⟨hmem, hmember⟩ := List.mem_filter.mp hp
              exact hlegible.comment .here hitem hname hshape hmem hmember hcomment

/-! ## Arrays -/

/-- Shelves of books.  There are operators in a key, a comment, a literal and a custom type, and
one between the members of a union, but brackets are around all of them. -/
def shelfGraph : Graph := ⟨#[
  ⟨.array (.node 1), none, none⟩,
  ⟨.intersection [.node 2], none, none⟩,
  ⟨.array (.node 3), none, none⟩,
  ⟨.interface [⟨some "kind | form", .node 4, true, false, false⟩,
    ⟨some "lent", .node 5, false, false, false⟩] [], none, none⟩,
  ⟨.union [.node 6, .node 7], none, some "One | the other \x7d"⟩,
  ⟨.custom "Map<string, number | null>", none, none⟩,
  ⟨.literal (.str "a|b"), none, none⟩,
  ⟨.string, some "form", none⟩]⟩

/-- Scores, and pairs of brackets. -/
def scoreGraph : Graph := ⟨#[
  ⟨.array (.node 1), none, none⟩,
  ⟨.custom "string | number", none, none⟩,
  ⟨.array (.node 3), none, none⟩,
  ⟨.tuple [.node 4], none, none⟩,
  ⟨.custom "] | [", none, none⟩]⟩

end TypeExpr

end SchemaDecls
