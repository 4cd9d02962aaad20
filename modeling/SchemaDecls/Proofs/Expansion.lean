import Mathlib.Data.List.Infix
import SchemaDecls.Proofs.Declaring
import SchemaDecls.Proofs.Rendering

/-!
# What an expansion comes to

The expansion of a child goes down through unnamed nodes and writes their children,
until it comes to something that it does not go into: a node with a name, a value,
or a node that has no expression.  `TypeExpr.Meets g c d` says that the expansion of
`c` comes to `d`, whether it goes on from there or not.

Two things are read off it.  What the expansion meets shows in the text: the
identifier of a named node that is met stands in it (`TypeExpr.occurs_of_meets`).
And an expansion fails only over something that it meets
(`TypeExpr.render_eq_error`), provided that unnamed nodes do not nest without an
end.  For declarations, which are made of expansions, `Declaration.Mentions` and
`Declaration.Fault` say the same.
-/

namespace SchemaDecls

/-! ## Results of several steps -/

section

variable {α β : Type} {f : α → Except Failure β} {xs : List α} {ys : List β} {e : Failure}

/-- Where all steps succeed, each of them has its result among the results. -/
theorem exists_mem_of_mapM_eq_ok (h : xs.mapM f = .ok ys) {x : α} (hx : x ∈ xs) :
    ∃ y ∈ ys, f x = .ok y := by
  induction xs generalizing ys with
  | nil => contradiction
  | cons first rest ih =>
      rw [List.mapM_cons] at h
      obtain ⟨y, hfirst, h⟩ := bind_eq_ok h
      obtain ⟨zs, hrest, h⟩ := bind_eq_ok h
      obtain rfl := Except.ok.inj h
      rcases List.mem_cons.mp hx with rfl | hx
      · exact ⟨y, List.mem_cons_self, hfirst⟩
      · obtain ⟨z, hz, hfx⟩ := ih hrest hx
        exact ⟨z, List.mem_cons_of_mem y hz, hfx⟩

/-- Where all steps succeed, each result is that of a step. -/
theorem exists_of_mem_of_mapM_eq_ok (h : xs.mapM f = .ok ys) {y : β} (hy : y ∈ ys) :
    ∃ x ∈ xs, f x = .ok y := by
  induction xs generalizing ys with
  | nil =>
      obtain rfl := Except.ok.inj h
      contradiction
  | cons first rest ih =>
      rw [List.mapM_cons] at h
      obtain ⟨z, hfirst, h⟩ := bind_eq_ok h
      obtain ⟨zs, hrest, h⟩ := bind_eq_ok h
      obtain rfl := Except.ok.inj h
      rcases List.mem_cons.mp hy with rfl | hy
      · exact ⟨first, List.mem_cons_self, hfirst⟩
      · obtain ⟨x, hx, hfx⟩ := ih hrest hy
        exact ⟨x, List.mem_cons_of_mem first hx, hfx⟩

theorem length_eq_of_mapM_eq_ok (h : xs.mapM f = .ok ys) : ys.length = xs.length := by
  induction xs generalizing ys with
  | nil =>
      obtain rfl := Except.ok.inj h
      rfl
  | cons first rest ih =>
      rw [List.mapM_cons] at h
      obtain ⟨z, -, h⟩ := bind_eq_ok h
      obtain ⟨zs, hrest, h⟩ := bind_eq_ok h
      obtain rfl := Except.ok.inj h
      exact congrArg (· + 1) (ih hrest)

/-- Steps one after another fail at the first of them that fails. -/
theorem mapM_eq_error (h : xs.mapM f = .error e) :
    ∃ before x after, xs = before ++ x :: after ∧ f x = .error e ∧
      ∀ b ∈ before, ∃ y, f b = .ok y := by
  induction xs with
  | nil => contradiction
  | cons x rest ih =>
      rw [List.mapM_cons] at h
      cases hx : f x with
      | error e' =>
          rw [hx] at h
          have he : e' = e := Except.error.inj h
          exact ⟨[], x, rest, rfl, he ▸ hx, by simp⟩
      | ok y =>
          have hrest : rest.mapM f = .error e := by
            cases hends : rest.mapM f with
            | error e' =>
                rw [hx, hends] at h
                exact congrArg Except.error (Except.error.inj h)
            | ok zs =>
                rw [hx, hends] at h
                contradiction
          obtain ⟨before, z, after, hsplit, hz, hbefore⟩ := ih hrest
          refine ⟨x :: before, z, after, by simp [hsplit], hz, ?_⟩
          simpa [hx] using hbefore

/-- What comes behind the first step that fails does not matter. -/
theorem mapM_of_split {before after : List α} {x : α} (hbefore : ∀ b ∈ before, ∃ y, f b = .ok y)
    (hx : f x = .error e) : (before ++ x :: after).mapM f = .error e := by
  induction before with
  | nil =>
      rw [List.nil_append, List.mapM_cons, hx]
      rfl
  | cons first rest ih =>
      obtain ⟨⟨y, hfirst⟩, hrest⟩ := List.forall_mem_cons.mp hbefore
      rw [List.cons_append, List.mapM_cons, hfirst, ih hrest]
      rfl

theorem map_eq_ok {γ : Type} {r : Except Failure β} {k : β → γ} {c : γ} (h : r.map k = .ok c) :
    ∃ b, r = .ok b ∧ k b = c := by
  cases r with
  | error e => contradiction
  | ok b => exact ⟨b, rfl, Except.ok.inj h⟩

theorem map_eq_error {γ : Type} {r : Except Failure β} {k : β → γ} (h : r.map k = .error e) :
    r = .error e := by
  cases r with
  | error e' => exact congrArg Except.error (Except.error.inj h)
  | ok b => contradiction

theorem bind_eq_error {γ : Type} {r : Except Failure β} {k : β → Except Failure γ}
    (h : (r >>= k) = .error e) : r = .error e ∨ ∃ b, r = .ok b ∧ k b = .error e := by
  cases r with
  | error e' => exact .inl (congrArg Except.error (Except.error.inj h))
  | ok b => exact .inr ⟨b, rfl, h⟩

end

/-! ## Texts that stand in other texts -/

/-- The first text stands somewhere in the second one. -/
def Occurs (part text : String) : Prop := part.toList <:+: text.toList

namespace Occurs

variable {part text more : String}

theorem refl (text : String) : Occurs text text := List.infix_refl _

theorem trans (h : Occurs part text) (h' : Occurs text more) : Occurs part more :=
  List.IsInfix.trans h h'

theorem append_left (h : Occurs part text) (before : String) : Occurs part (before ++ text) := by
  unfold Occurs
  rw [String.toList_append]
  exact List.IsInfix.trans h (List.suffix_append _ _).isInfix

theorem append_right (h : Occurs part text) (after : String) : Occurs part (text ++ after) := by
  unfold Occurs
  rw [String.toList_append]
  exact List.IsInfix.trans h (List.prefix_append _ _).isInfix

/-- Each of several texts stands in them all together. -/
theorem intercalate {parts : List String} (h : part ∈ parts) (separator : String) :
    Occurs part (separator.intercalate parts) := by
  induction parts with
  | nil => contradiction
  | cons first rest ih =>
      cases rest with
      | nil =>
          obtain rfl := List.mem_singleton.mp h
          simpa using refl part
      | cons second rest =>
          rw [String.intercalate_cons_cons]
          rcases List.mem_cons.mp h with rfl | h
          · exact ((refl part).append_right _).append_right _
          · exact (ih h).append_left _

end Occurs

/-! ## One level of an expansion -/

/-- The children that are written where the shape is expanded. -/
def Shape.written (s : Shape) : List Child := s.inlined.children

theorem Shape.written_subset {s : Shape} {c : Child} (h : c ∈ s.written) : c ∈ s.children := by
  cases s with
  | interface properties superTypes =>
      have hmem : ∃ p, (p ∈ properties ∧ TypeExpr.isMember p = true) ∧ p.type = c := by
        simpa [written, inlined, children, interfaceChildren] using h
      obtain ⟨p, ⟨hp, -⟩, rfl⟩ := hmem
      exact List.mem_append_left _ (List.mem_map_of_mem hp)
  | enum members => contradiction
  | _ => exact h

namespace TypeExpr

variable {g : Graph} {f : Child → Except Failure String}

theorem occurs_setOperation {part : String} {parts : List String} (h : part ∈ parts)
    (separator : String) : Occurs part (setOperation separator parts) := by
  unfold setOperation
  split
  next member =>
    obtain rfl := List.mem_singleton.mp h
    exact .refl _
  next => exact ((Occurs.intercalate h separator).append_left _).append_right _

theorem occurs_member (m : Member) : Occurs m.type m.text := by
  unfold Member.text
  exact (Occurs.refl m.type).append_left _

theorem occurs_interfaceBody {m : Member} {ms : List Member} (h : m ∈ ms) :
    Occurs m.type (interfaceBody ms) := by
  have hline : Occurs m.text ("\n".intercalate (ms.map Member.text)) :=
    .intercalate (List.mem_map_of_mem h) "\n"
  unfold interfaceBody
  exact (((occurs_member m).trans hline).append_left _).append_right _

theorem member_eq_ok {p : Property} {m : Member} (h : member g f p = .ok m) :
    f p.type = .ok m.type := by
  obtain ⟨type, htype, h⟩ := bind_eq_ok h
  obtain rfl := Except.ok.inj h
  exact htype

theorem member_eq_error {p : Property} {e : Failure} (h : member g f p = .error e) :
    f p.type = .error e := by
  rcases bind_eq_error h with htype | ⟨type, -, hok⟩
  · exact htype
  · contradiction

/-- Where a shape is expanded, the texts of the children that are written stand in
the result. -/
theorem expandWith_eq_ok {s : Shape} {text : String} (h : expandWith g f s = .ok text)
    {c : Child} (hc : c ∈ s.written) : ∃ part, f c = .ok part ∧ Occurs part text := by
  -- Tuples, unions and intersections differ only in how their members are put together.
  have hlist : ∀ (children : List Child) (combine : List String → String),
      (∀ part parts, part ∈ parts → Occurs part (combine parts)) → c ∈ children →
      (children.mapM f).map combine = .ok text → ∃ part, f c = .ok part ∧ Occurs part text := by
    intro children combine hcombine hc h
    obtain ⟨parts, hparts, rfl⟩ := map_eq_ok h
    obtain ⟨part, hpart, hfc⟩ := exists_mem_of_mapM_eq_ok hparts hc
    exact ⟨part, hfc, hcombine part parts hpart⟩
  cases s with
  | array element =>
      obtain rfl := List.mem_singleton.mp hc
      obtain ⟨part, hpart, rfl⟩ := map_eq_ok h
      exact ⟨part, hpart, (Occurs.refl part).append_right _⟩
  | tuple children =>
      refine hlist children tuple ?_ hc h
      intro part parts hpart
      exact ((Occurs.intercalate hpart _).append_left _).append_right _
  | union children => exact hlist children _ (fun _ _ hpart => occurs_setOperation hpart _) hc h
  | intersection children =>
      exact hlist children _ (fun _ _ hpart => occurs_setOperation hpart _) hc h
  | interface properties superTypes =>
      obtain ⟨ms, hms, rfl⟩ := map_eq_ok h
      have hmem : ∃ p ∈ properties.filter isMember, p.type = c := by
        simpa [Shape.written, Shape.inlined, Shape.children, interfaceChildren] using hc
      obtain ⟨p, hp, rfl⟩ := hmem
      obtain ⟨m, hm, hmember⟩ := exists_mem_of_mapM_eq_ok hms hp
      exact ⟨m.type, member_eq_ok hmember, occurs_interfaceBody hm⟩
  | _ => contradiction

/-- The expansion of a shape fails over a child that is written, or because the shape
has no expression. -/
theorem expandWith_eq_error {s : Shape} {e : Failure} (h : expandWith g f s = .error e) :
    (∃ c ∈ s.written, f c = .error e) ∨
      (s.kind = .enum ∨ s.kind = .bare) ∧ e = .unsupported (.node s.kind none) := by
  have hlist : ∀ (children : List Child) (combine : List String → String),
      (children.mapM f).map combine = .error e → ∃ c ∈ children, f c = .error e := by
    intro children combine h
    obtain ⟨before, c, after, rfl, hc, -⟩ := mapM_eq_error (map_eq_error h)
    exact ⟨c, by simp, hc⟩
  cases s with
  | array element => exact .inl ⟨element, List.mem_singleton_self element, map_eq_error h⟩
  | tuple children => exact .inl (hlist children _ h)
  | union children => exact .inl (hlist children _ h)
  | intersection children => exact .inl (hlist children _ h)
  | interface properties superTypes =>
      obtain ⟨before, p, after, hsplit, hp, -⟩ := mapM_eq_error (map_eq_error h)
      have hmem : p ∈ properties.filter isMember := by simp [hsplit]
      have hwritten : p.type ∈ (Shape.interface properties superTypes).written :=
        List.mem_append_left _ (List.mem_map_of_mem hmem)
      exact .inl ⟨p.type, hwritten, member_eq_error hp⟩
  | enum members => exact .inr ⟨.inl rfl, (Except.error.inj h).symm⟩
  | bare => exact .inr ⟨.inr rfl, (Except.error.inj h).symm⟩
  | _ => contradiction

/-! ## All levels of an expansion -/

/-- The expansion of the first child comes to the second one. -/
inductive Meets (g : Graph) : Child → Child → Prop
  | here {c : Child} : Meets g c c
  | inside {c next d : Child} {id : NodeId} {n : Node} (hitem : g.item c = .node id n)
      (hname : n.name = none) (hnext : next ∈ n.shape.written) (hrest : Meets g next d) :
      Meets g c d

/-- The child is something that has no expression. -/
inductive Offends (g : Graph) (c : Child) : Offender → Prop
  | value {v : Value} (hitem : g.item c = .value v) : Offends g c (.value v)
  | node {id : NodeId} {n : Node} (hitem : g.item c = .node id n) (hname : n.name = none)
      (hkind : n.kind = .enum ∨ n.kind = .bare) : Offends g c n.offender

section

variable {c d : Child} {depth : Nat} {text : String}

/-- The text of a child that the expansion meets stands in the whole text. -/
theorem exists_part_of_meets (h : renderUpTo g depth c = .ok text) (hmeets : Meets g c d) :
    ∃ depth' part, renderUpTo g depth' d = .ok part ∧ Occurs part text := by
  induction hmeets generalizing depth text with
  | here => exact ⟨depth, text, h, .refl text⟩
  | inside hitem hname hnext _ ih =>
      cases depth with
      | zero => contradiction
      | succ depth =>
          rw [renderUpTo_of_unnamed hitem hname] at h
          obtain ⟨part, hpart, hocc⟩ := expandWith_eq_ok h hnext
          obtain ⟨depth', inner, hinner, hocc'⟩ := ih hpart
          exact ⟨depth', inner, hinner, hocc'.trans hocc⟩

/-- The identifiers of the named nodes that an expansion meets stand in its text. -/
theorem occurs_of_meets {id : NodeId} {n : Node} {name : String} (h : render g c = .ok text)
    (hmeets : Meets g c d) (hitem : g.item d = .node id n) (hname : n.name = some name) :
    Occurs (Identifier.ofName name) text := by
  obtain ⟨depth, part, hpart, hocc⟩ := exists_part_of_meets h hmeets
  cases depth with
  | zero => contradiction
  | succ depth =>
      rw [renderUpTo_of_name hitem hname] at hpart
      obtain rfl := Except.ok.inj hpart
      exact hocc

/-- An expansion that is given enough depth fails only over something that it meets
and that has no expression. -/
theorem renderUpTo_eq_error (hunfolds : g.Unfolds) {e : Failure} (hfits : Fits g depth c)
    (h : renderUpTo g depth c = .error e) :
    ∃ d offender, Meets g c d ∧ Offends g d offender ∧ e = .unsupported offender := by
  induction depth generalizing c with
  | zero => exact absurd hfits.1 (Nat.lt_irrefl 0)
  | succ depth ih =>
      cases hitem : g.item c with
      | value v =>
          rw [renderUpTo_of_value hitem] at h
          exact ⟨c, .value v, .here, .value hitem, (Except.error.inj h).symm⟩
      | node id n =>
          cases hname : n.name with
          | some name =>
              rw [renderUpTo_of_name hitem hname] at h
              contradiction
          | none =>
              rw [renderUpTo_of_unnamed hitem hname] at h
              rcases expandWith_eq_error h with ⟨next, hnext, hfails⟩ | ⟨hkind, rfl⟩
              · have hinner : Fits g depth next :=
                  hfits.of_child hunfolds hitem hname (Shape.written_subset hnext)
                obtain ⟨d, offender, hmeets, hoffends, rfl⟩ := ih hinner hfails
                exact ⟨d, offender, .inside hitem hname hnext hmeets, hoffends, rfl⟩
              · have hoffender : n.offender = .node n.shape.kind none := by
                  rw [Node.offender, hname, Node.kind]
                exact ⟨c, n.offender, .here, .node hitem hname hkind, by rw [hoffender]⟩

theorem render_eq_error (hunfolds : g.Unfolds) {e : Failure} (h : render g c = .error e) :
    ∃ d offender, Meets g c d ∧ Offends g d offender ∧ e = .unsupported offender :=
  renderUpTo_eq_error hunfolds (fits_of_size_lt hunfolds (Nat.lt_succ_self g.size) c) h

end

end TypeExpr

/-! ## Declarations -/

theorem Node.exists_shape_of_interface {n : Node} (h : n.kind = .interface) :
    ∃ properties superTypes, n.shape = .interface properties superTypes := by
  obtain ⟨shape, name, comment⟩ := n
  cases shape with
  | interface properties superTypes => exact ⟨properties, superTypes, rfl⟩
  | _ => contradiction

theorem Node.exists_shape_of_enum {n : Node} (h : n.kind = .enum) :
    ∃ members, n.shape = .enum members := by
  obtain ⟨shape, name, comment⟩ := n
  cases shape with
  | enum members => exact ⟨members, rfl⟩
  | _ => contradiction

/-- The children whose expansions a declaration is made of. -/
def Shape.expanded : Shape → List Child
  | .enum members => members.map EnumMember.value
  | s => s.written

theorem Shape.expanded_subset {s : Shape} {c : Child} (h : c ∈ s.expanded) : c ∈ s.children := by
  cases s with
  | enum members => exact h
  | _ => exact written_subset h

namespace Declaration

/-- The declaration of the node refers to another node by its identifier: in an
expansion, or as a super-type. -/
inductive Mentions (g : Graph) (n : Node) (id : NodeId) : Prop
  | expanded {c d : Child} {m : Node} (hc : c ∈ n.shape.expanded) (hmeets : TypeExpr.Meets g c d)
      (hitem : g.item d = .node id m) (hname : m.hasName = true) : Mentions g n id
  | extended {properties : List Property} {superTypes : List Child} {c : Child} {m : Node}
      (hshape : n.shape = .interface properties superTypes) (hc : c ∈ superTypes)
      (hitem : g.item c = .node id m) (hname : m.hasName = true) : Mentions g n id

/-- The first of the super-types of the node that cannot be written is this value. -/
def StraySuperType (g : Graph) (n : Node) (v : Value) : Prop :=
  ∃ properties before c after, n.shape = .interface properties (before ++ c :: after) ∧
    g.item c = .value v ∧ ∀ b ∈ before, ∃ id m, g.item b = .node id m ∧ m.hasName = true

/-- What the declaration of a node can fail for, and how it then fails. -/
inductive Fault (g : Graph) (n : Node) : Failure → Prop
  | unnamed {role : Role} (hname : n.name = none) : Fault g n (.unnamed role n.offender)
  | bare (hkind : n.kind = .bare) : Fault g n (.unsupported (.node .bare none))
  /-- An expansion meets something that has no expression. -/
  | expanded {c d : Child} {offender : Offender} (hc : c ∈ n.shape.expanded)
      (hmeets : TypeExpr.Meets g c d) (hoffends : TypeExpr.Offends g d offender) :
      Fault g n (.unsupported offender)
  | unnamedSuperType {properties : List Property} {superTypes : List Child} {c : Child}
      {id : NodeId} {m : Node} (hshape : n.shape = .interface properties superTypes)
      (hc : c ∈ superTypes) (hitem : g.item c = .node id m) (hname : m.name = none) :
      Fault g n (.unnamed .superType m.offender)
  | straySuperType {v : Value} (h : StraySuperType g n v) : Fault g n (.superTypeNotNode v)

variable {g : Graph} {o : Options} {n : Node} {text : String} {e : Failure}

theorem ofNode_of_enum {members : List EnumMember} (h : n.shape = .enum members) :
    ofNode g o n = ofEnum g o n members := by
  simp [ofNode, h]

theorem ofNode_of_interface {properties : List Property} {superTypes : List Child}
    (h : n.shape = .interface properties superTypes) :
    ofNode g o n = ofInterface g n properties superTypes := by
  simp [ofNode, h]

theorem ofNode_of_alias (h : n.kind ≠ .interface) (h' : n.kind ≠ .enum) :
    ofNode g o n = ofAlias g n := by
  obtain ⟨shape, name, comment⟩ := n
  cases shape <;> simp_all [ofNode, Node.kind, Shape.kind]

/-! ### What is mentioned stands in the text -/

theorem occurs_commented {part declaration : String} (h : Occurs part declaration)
    (comment : Option String) : Occurs part (commented comment declaration) := by
  cases comment with
  | none => exact h
  | some comment => exact h.append_left _

theorem occurs_enumText {m : String × String} {members : List (String × String)}
    (h : m ∈ members) (isConst : Bool) (name : String) :
    Occurs m.2 (enumText isConst name members) := by
  have hmember : Occurs m.2 (m.1 ++ " = " ++ m.2) := (Occurs.refl m.2).append_left _
  have hlist := Occurs.intercalate
    (List.mem_map_of_mem (f := fun m : String × String => m.1 ++ " = " ++ m.2) h) ",\n"
  unfold enumText
  exact ((hmember.trans hlist).append_left _).append_right _

theorem occurs_interfaceText {superType name body : String} {superTypes : List String}
    (h : superType ∈ superTypes) : Occurs superType (interfaceText name superTypes body) := by
  have hnonempty : superTypes.isEmpty = false := by
    cases superTypes with
    | nil => contradiction
    | cons first rest => rfl
  have hlist := Occurs.intercalate h ", "
  unfold interfaceText
  simp only [hnonempty, Bool.false_eq_true, if_false]
  exact (((hlist.append_left _).append_right _).append_left _).append_right _

theorem superType_eq_ok {c : Child} {ident : String} (h : superType g c = .ok ident) :
    ∃ id m name, g.item c = .node id m ∧ m.name = some name ∧ ident = Identifier.ofName name := by
  unfold superType at h
  cases hitem : g.item c with
  | value v =>
      rw [hitem] at h
      contradiction
  | node id m =>
      rw [hitem] at h
      obtain ⟨name, hname, rfl⟩ := identifier_eq_ok h
      exact ⟨id, m, name, rfl, hname, rfl⟩

/-- The text of an expansion that a declaration is made of stands in the declaration. -/
theorem exists_part_of_expanded (h : ofNode g o n = .ok text) {c : Child}
    (hc : c ∈ n.shape.expanded) : ∃ part, TypeExpr.render g c = .ok part ∧ Occurs part text := by
  unfold ofNode at h
  split at h
  next members hshape =>
    rw [hshape] at hc
    obtain ⟨m, hm, rfl⟩ := List.mem_map.mp hc
    obtain ⟨name, written, -, hwritten, rfl⟩ := ofEnum_eq_ok h
    obtain ⟨pair, hpair, hmember⟩ := exists_mem_of_mapM_eq_ok hwritten hm
    obtain ⟨part, hpart, rfl⟩ := map_eq_ok hmember
    exact ⟨part, hpart, occurs_commented (occurs_enumText hpair _ _) _⟩
  next properties superTypes hshape =>
    rw [hshape] at hc
    obtain ⟨name, supers, body, -, -, hbody, rfl⟩ := ofInterface_eq_ok h
    have hexpand : TypeExpr.expandWith g (TypeExpr.render g) (.interface properties superTypes) =
        .ok body := hbody
    obtain ⟨part, hpart, hocc⟩ := TypeExpr.expandWith_eq_ok hexpand hc
    exact ⟨part, hpart, occurs_commented (hocc.append_left _) _⟩
  next hnotEnum _ =>
    obtain ⟨name, expression, -, hexpression, rfl⟩ := ofAlias_eq_ok h
    have hwritten : c ∈ n.shape.written := by
      generalize n.shape = s at hc hnotEnum
      cases s with
      | enum members => exact absurd rfl (hnotEnum members)
      | _ => exact hc
    obtain ⟨part, hpart, hocc⟩ := TypeExpr.expandWith_eq_ok hexpression hwritten
    exact ⟨part, hpart, occurs_commented (hocc.append_left _) _⟩

/-- What a declaration mentions is a node with a name, and its identifier stands in the
text. -/
theorem occurs_of_mentions (h : ofNode g o n = .ok text) {id : NodeId} (hm : Mentions g n id) :
    ∃ m name, g.get? id = some m ∧ m.name = some name ∧
      Occurs (Identifier.ofName name) text := by
  cases hm with
  | @expanded c d m hc hmeets hitem hname =>
      obtain ⟨name, hname⟩ := Option.isSome_iff_exists.mp hname
      obtain ⟨part, hpart, hocc⟩ := exists_part_of_expanded h hc
      exact ⟨m, name, Graph.get?_of_item hitem, hname,
        (TypeExpr.occurs_of_meets hpart hmeets hitem hname).trans hocc⟩
  | @extended properties superTypes c m hshape hc hitem hname =>
      obtain ⟨name, hname⟩ := Option.isSome_iff_exists.mp hname
      rw [ofNode_of_interface hshape] at h
      obtain ⟨own, supers, body, -, hsupers, -, rfl⟩ := ofInterface_eq_ok h
      obtain ⟨ident, hident, hsuper⟩ := exists_mem_of_mapM_eq_ok hsupers hc
      obtain ⟨id', m', name', hitem', hname', rfl⟩ := superType_eq_ok hsuper
      obtain ⟨rfl, rfl⟩ := Graph.item_inj hitem hitem'
      rw [hname] at hname'
      obtain rfl := Option.some.inj hname'
      exact ⟨m, name, Graph.get?_of_item hitem, hname,
        occurs_commented (occurs_interfaceText hident) _⟩

/-! ### What declarations fail for -/

theorem identifier_eq_error {role : Role} (h : identifier role n = .error e) :
    n.name = none ∧ e = .unnamed role n.offender := by
  unfold identifier at h
  cases hname : n.name with
  | none =>
      rw [hname] at h
      exact ⟨rfl, (Except.error.inj h).symm⟩
  | some name =>
      rw [hname] at h
      contradiction

theorem superTypes_eq_error {properties : List Property} {superTypes : List Child}
    (hshape : n.shape = .interface properties superTypes)
    (h : superTypes.mapM (superType g) = .error e) : Fault g n e := by
  obtain ⟨before, c, after, rfl, hc, hbefore⟩ := mapM_eq_error h
  unfold superType at hc
  cases hitem : g.item c with
  | value v =>
      rw [hitem] at hc
      obtain rfl := Except.error.inj hc
      refine .straySuperType ⟨properties, before, c, after, hshape, hitem, ?_⟩
      intro b hb
      obtain ⟨ident, hident⟩ := hbefore b hb
      obtain ⟨id, m, name, hb, hname, -⟩ := superType_eq_ok hident
      exact ⟨id, m, hb, by simp [Node.hasName, hname]⟩
  | node id m =>
      rw [hitem] at hc
      obtain ⟨hname, rfl⟩ := identifier_eq_error hc
      exact .unnamedSuperType hshape (by simp) hitem hname

/-- A stray super-type is what the declaration fails for. -/
theorem ofNode_of_straySuperType {v : Value} (h : StraySuperType g n v) :
    ofNode g o n = .error (.superTypeNotNode v) := by
  obtain ⟨properties, before, c, after, hshape, hitem, hbefore⟩ := h
  have hsupers : (before ++ c :: after).mapM (superType g) = .error (.superTypeNotNode v) := by
    apply mapM_of_split
    · intro b hb
      obtain ⟨id, m, hb, hname⟩ := hbefore b hb
      obtain ⟨name, hname⟩ := Option.isSome_iff_exists.mp hname
      exact ⟨Identifier.ofName name, by simp [superType, hb, identifier, hname]⟩
    · simp [superType, hitem]
  rw [ofNode_of_interface hshape, ofInterface, hsupers]
  rfl

/-- An expansion that a declaration is made of fails only over something that the
declaration is faulty for. -/
theorem fault_of_render_eq_error (hunfolds : g.Unfolds) {c : Child} (hc : c ∈ n.shape.expanded)
    (h : TypeExpr.render g c = .error e) : Fault g n e := by
  obtain ⟨d, offender, hmeets, hoffends, rfl⟩ := TypeExpr.render_eq_error hunfolds h
  exact .expanded hc hmeets hoffends

theorem fault_of_ofEnum_eq_error (hunfolds : g.Unfolds) {members : List EnumMember}
    (hshape : n.shape = .enum members) (h : ofEnum g o n members = .error e) : Fault g n e := by
  rcases bind_eq_error h with hmembers | ⟨written, -, h⟩
  · obtain ⟨before, m, after, rfl, hm, -⟩ := mapM_eq_error hmembers
    refine fault_of_render_eq_error hunfolds ?_ (map_eq_error hm)
    rw [hshape]
    exact List.mem_map_of_mem (by simp)
  · rcases bind_eq_error h with hident | ⟨ident, -, h⟩
    · obtain ⟨hname, rfl⟩ := identifier_eq_error hident
      exact .unnamed hname
    · contradiction

theorem fault_of_ofInterface_eq_error (hunfolds : g.Unfolds) {properties : List Property}
    {superTypes : List Child} (hshape : n.shape = .interface properties superTypes)
    (h : ofInterface g n properties superTypes = .error e) : Fault g n e := by
  rcases bind_eq_error h with hsupers | ⟨supers, -, h⟩
  · exact superTypes_eq_error hshape hsupers
  · rcases bind_eq_error h with hident | ⟨ident, -, h⟩
    · obtain ⟨hname, rfl⟩ := identifier_eq_error hident
      exact .unnamed hname
    · rcases bind_eq_error h with hbody | ⟨body, -, h⟩
      · have hexpand : TypeExpr.expandWith g (TypeExpr.render g)
            (.interface properties superTypes) = .error e := hbody
        rcases TypeExpr.expandWith_eq_error hexpand with ⟨c, hc, hfails⟩ | ⟨hkind, -⟩
        · refine fault_of_render_eq_error hunfolds ?_ hfails
          rw [hshape]
          exact hc
        · simp [Shape.kind] at hkind
      · contradiction

theorem fault_of_ofAlias_eq_error (hunfolds : g.Unfolds) (hkind : n.kind ≠ .enum)
    (h : ofAlias g n = .error e) : Fault g n e := by
  rcases bind_eq_error h with hident | ⟨ident, -, h⟩
  · obtain ⟨hname, rfl⟩ := identifier_eq_error hident
    exact .unnamed hname
  · rcases bind_eq_error h with hexpression | ⟨expression, -, h⟩
    · rcases TypeExpr.expandWith_eq_error hexpression with ⟨c, hc, hfails⟩ | ⟨hbare, rfl⟩
      · refine fault_of_render_eq_error hunfolds ?_ hfails
        generalize n.shape = s at hc
        cases s with
        | enum members => contradiction
        | _ => exact hc
      · have hbare : n.kind = .bare := hbare.resolve_left hkind
        rw [← Node.kind, hbare]
        exact .bare hbare
    · contradiction

/-- A declaration fails only for a fault of the node. -/
theorem ofNode_eq_error (hunfolds : g.Unfolds) (h : ofNode g o n = .error e) : Fault g n e := by
  unfold ofNode at h
  split at h
  next members hshape => exact fault_of_ofEnum_eq_error hunfolds hshape h
  next properties superTypes hshape => exact fault_of_ofInterface_eq_error hunfolds hshape h
  next hnotEnum _ =>
    refine fault_of_ofAlias_eq_error hunfolds ?_ h
    intro hkind
    obtain ⟨shape, name, comment⟩ := n
    cases shape with
    | enum members => exact hnotEnum members rfl
    | _ => simp [Node.kind, Shape.kind] at hkind

end Declaration

end SchemaDecls
