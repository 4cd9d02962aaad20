import Mathlib.Data.List.Forall2
import SchemaDecls.Proofs.Rank
import SchemaDecls.TypeExpr

/-!
# Graphs that look alike

Two graphs may stand for one and the same schema, although one shares nodes where
the other has copies of them.  A relation between their nodes says which node
stands for which.  It is a similarity if related nodes have all that can be seen of
them in common, and children that correspond: values that are equal, or nodes that
are related again (`Graph.Similar`).

Less has to agree for what is written inside of other things.  There a named node
is its name, and of an unnamed interface only the members are written.
`Graph.SimilarInline` asks for no more than that.

A graph that consists of copies of the nodes of another one is similar to it
(`Graph.IsCopied.similar`).  In particular this is true of a tree in which
everything has been copied that was shared.
-/

namespace SchemaDecls

/-! ## Shapes -/

/-- The shape has no children, not even an empty list of them. -/
def Shape.isLeaf : Shape → Bool
  | .any | .boolean | .number | .null | .object | .string => true
  | .literal _ | .reference _ | .custom _ | .bare => true
  | _ => false

/-- Properties that agree in their key and their flags. -/
structure Property.Alike (rel : Child → Child → Prop) (p p' : Property) : Prop where
  key : p.key = p'.key
  type : rel p.type p'.type
  required : p.required = p'.required
  pattern : p.pattern = p'.pattern
  unreachable : p.unreachable = p'.unreachable

/-- Enum members that agree in their key. -/
structure EnumMember.Alike (rel : Child → Child → Prop) (m m' : EnumMember) : Prop where
  key : m.key = m'.key
  value : rel m.value m'.value

/-- Shapes of one kind that agree in all but their children, and whose children are
related one by one. -/
inductive Shape.Alike (rel : Child → Child → Prop) : Shape → Shape → Prop
  | leaf {s : Shape} (h : s.isLeaf = true) : Alike rel s s
  | array {c c' : Child} (h : rel c c') : Alike rel (.array c) (.array c')
  | tuple {cs cs' : List Child} (h : List.Forall₂ rel cs cs') : Alike rel (.tuple cs) (.tuple cs')
  | union {cs cs' : List Child} (h : List.Forall₂ rel cs cs') : Alike rel (.union cs) (.union cs')
  | intersection {cs cs' : List Child} (h : List.Forall₂ rel cs cs') :
      Alike rel (.intersection cs) (.intersection cs')
  | interface {ps ps' : List Property} {cs cs' : List Child}
      (hproperties : List.Forall₂ (Property.Alike rel) ps ps') (hsupers : List.Forall₂ rel cs cs') :
      Alike rel (.interface ps cs) (.interface ps' cs')
  | enum {ms ms' : List EnumMember} (h : List.Forall₂ (EnumMember.Alike rel) ms ms') :
      Alike rel (.enum ms) (.enum ms')

/-- What is written of a shape inside of other things. -/
def Shape.inlined : Shape → Shape
  | .interface properties _ => .interface (properties.filter TypeExpr.isMember) []
  | .enum _ => .enum []
  | s => s

section

variable {rel rel' : Child → Child → Prop}

theorem Property.Alike.mono {p p' : Property} (h : p.Alike rel p')
    (hle : ∀ c c', rel c c' → rel' c c') : p.Alike rel' p' :=
  ⟨h.key, hle _ _ h.type, h.required, h.pattern, h.unreachable⟩

theorem EnumMember.Alike.mono {m m' : EnumMember} (h : m.Alike rel m')
    (hle : ∀ c c', rel c c' → rel' c c') : m.Alike rel' m' :=
  ⟨h.key, hle _ _ h.value⟩

theorem Property.Alike.isMember_eq {p p' : Property} (h : p.Alike rel p') :
    TypeExpr.isMember p = TypeExpr.isMember p' := by
  unfold TypeExpr.isMember
  rw [h.pattern, h.unreachable]

/-- Of properties that are alike one by one, the same ones are members. -/
theorem Property.Alike.filter_isMember {ps ps' : List Property}
    (h : List.Forall₂ (Property.Alike rel) ps ps') :
    List.Forall₂ (Property.Alike rel) (ps.filter TypeExpr.isMember)
      (ps'.filter TypeExpr.isMember) := by
  refine List.rel_filter ?_ h
  intro p p' hp
  simp only [hp.isMember_eq]

namespace Shape

variable {s s' : Shape}

theorem Alike.mono (h : s.Alike rel s') (hle : ∀ c c', rel c c' → rel' c c') :
    s.Alike rel' s' := by
  have hlist : ∀ cs cs', List.Forall₂ rel cs cs' → List.Forall₂ rel' cs cs' :=
    fun _ _ hcs => hcs.imp hle
  cases h with
  | leaf h => exact .leaf h
  | array h => exact .array (hle _ _ h)
  | tuple h => exact .tuple (hlist _ _ h)
  | union h => exact .union (hlist _ _ h)
  | intersection h => exact .intersection (hlist _ _ h)
  | interface hproperties hsupers =>
      exact .interface (hproperties.imp fun _ _ hp => hp.mono hle) (hlist _ _ hsupers)
  | enum h => exact .enum (h.imp fun _ _ hm => hm.mono hle)

theorem Alike.kind_eq (h : s.Alike rel s') : s.kind = s'.kind := by
  cases h <;> rfl

/-- Shapes that are alike are alike in what is written of them. -/
theorem Alike.inlined (h : s.Alike rel s') : s.inlined.Alike rel s'.inlined := by
  cases h with
  | leaf h =>
      cases s with
      | interface => contradiction
      | enum => contradiction
      | _ => exact .leaf h
  | array h => exact .array h
  | tuple h => exact .tuple h
  | union h => exact .union h
  | intersection h => exact .intersection h
  | interface hproperties _ =>
      exact .interface (Property.Alike.filter_isMember hproperties) .nil
  | enum _ => exact .enum .nil

/-- A shape is like itself where its children are related to themselves. -/
theorem Alike.of_children (h : ∀ c ∈ s.children, rel c c) : s.Alike rel s := by
  cases s with
  | array element => exact .array (h element (List.mem_singleton_self element))
  | tuple members => exact .tuple (List.forall₂_same.mpr h)
  | union members => exact .union (List.forall₂_same.mpr h)
  | intersection members => exact .intersection (List.forall₂_same.mpr h)
  | interface properties superTypes =>
      refine .interface (List.forall₂_same.mpr ?_) (List.forall₂_same.mpr ?_)
      · intro p hp
        exact ⟨rfl, h p.type (List.mem_append_left _ (List.mem_map_of_mem hp)), rfl, rfl, rfl⟩
      · intro c hc
        exact h c (List.mem_append_right _ hc)
  | enum members =>
      refine .enum (List.forall₂_same.mpr ?_)
      intro m hm
      exact ⟨rfl, h m.value (List.mem_map_of_mem hm)⟩
  | _ => exact .leaf rfl

end Shape

end

/-! ## Graphs -/

/-- Two children that are equal values, or nodes that are related. -/
inductive Graph.Corresponds (g g' : Graph) (rel : NodeId → NodeId → Prop) (c c' : Child) : Prop
  | node {a b : NodeId} {n n' : Node} (h : g.item c = .node a n) (h' : g'.item c' = .node b n')
      (hrel : rel a b) : Corresponds g g' rel c c'
  | value {v : Value} (h : g.item c = .value v) (h' : g'.item c' = .value v) :
      Corresponds g g' rel c c'

/-- Nodes that agree in all but their children, and whose children are related. -/
structure Node.Alike (rel : Child → Child → Prop) (n n' : Node) : Prop where
  name : n.name = n'.name
  comment : n.comment = n'.comment
  shape : n.shape.Alike rel n'.shape

/-- Nodes that agree in what is written of them inside of other things: their
names, and all the rest if they have none. -/
structure Node.AlikeInline (rel : Child → Child → Prop) (n n' : Node) : Prop where
  name : n.name = n'.name
  comment : n.name = none → n.comment? = n'.comment?
  shape : n.name = none → n.shape.inlined.Alike rel n'.shape.inlined

namespace Node.Alike

variable {rel : Child → Child → Prop} {n n' : Node}

theorem inline (h : n.Alike rel n') : n.AlikeInline rel n' where
  name := h.name
  comment _ := by rw [comment?, comment?, h.comment]
  shape _ := h.shape.inlined

theorem comment?_eq (h : n.Alike rel n') : n.comment? = n'.comment? := by
  rw [comment?, comment?, h.comment]

theorem offender_eq (h : n.Alike rel n') : n.offender = n'.offender := by
  rw [offender, offender, kind, kind, h.shape.kind_eq, h.name]

end Node.Alike

namespace Graph

/-- Related numbers are those of nodes of which this holds. -/
def Relates (g g' : Graph) (rel : NodeId → NodeId → Prop) (holds : Node → Node → Prop) : Prop :=
  ∀ a b, rel a b → ∃ n n', g.get? a = some n ∧ g'.get? b = some n' ∧ holds n n'

/-- Related nodes are alike, and so are their children, and so on. -/
def Similar (g g' : Graph) (rel : NodeId → NodeId → Prop) : Prop :=
  g.Relates g' rel (Node.Alike (g.Corresponds g' rel))

/-- Related nodes are alike as far as they are written inside of other things. -/
def SimilarInline (g g' : Graph) (rel : NodeId → NodeId → Prop) : Prop :=
  g.Relates g' rel (Node.AlikeInline (g.Corresponds g' rel))

variable {g g' : Graph} {rel : NodeId → NodeId → Prop} {c c' : Child}

theorem Similar.inline (h : g.Similar g' rel) : g.SimilarInline g' rel := by
  intro a b hrel
  obtain ⟨n, n', hn, hn', halike⟩ := h a b hrel
  exact ⟨n, n', hn, hn', halike.inline⟩

/-- What corresponds are equal values, or nodes of which this holds. -/
theorem Relates.cases {holds : Node → Node → Prop} (h : g.Relates g' rel holds)
    (hc : g.Corresponds g' rel c c') :
    (∃ v, g.item c = .value v ∧ g'.item c' = .value v) ∨
      ∃ a b n n', g.item c = .node a n ∧ g'.item c' = .node b n' ∧ holds n n' := by
  cases hc with
  | value hitem hitem' => exact .inl ⟨_, hitem, hitem'⟩
  | @node a b m m' hitem hitem' hrel =>
      obtain ⟨n, n', hn, hn', hholds⟩ := h a b hrel
      rw [get?_of_item hitem] at hn
      rw [get?_of_item hitem'] at hn'
      obtain rfl := Option.some.inj hn
      obtain rfl := Option.some.inj hn'
      exact .inr ⟨a, b, m, m', hitem, hitem', hholds⟩

end Graph

/-! ## Copies -/

/-- The child with another number. -/
def Child.relabel (f : NodeId → NodeId) : Child → Child
  | .node id => .node (f id)
  | .value v => .value v

/-- The shape with other numbers for its children. -/
def Shape.relabel (f : NodeId → NodeId) : Shape → Shape
  | .array element => .array (element.relabel f)
  | .tuple members => .tuple (members.map (Child.relabel f))
  | .union members => .union (members.map (Child.relabel f))
  | .intersection members => .intersection (members.map (Child.relabel f))
  | .interface properties superTypes =>
      .interface (properties.map fun p => { p with type := p.type.relabel f })
        (superTypes.map (Child.relabel f))
  | .enum members => .enum (members.map fun m => { m with value := m.value.relabel f })
  | s => s

/-- The node with other numbers for its children. -/
def Node.relabel (f : NodeId → NodeId) (n : Node) : Node := { n with shape := n.shape.relabel f }

/-- The second graph consists of copies of the nodes of the first one: `source`
says of which node each one is a copy.  A node may have any number of copies. -/
def Graph.IsCopied (g g' : Graph) (source : NodeId → NodeId) : Prop :=
  ∀ id, g.get? (source id) = (g'.get? id).map (Node.relabel source)

/-- A shape is like the shape that it has been made from. -/
theorem Shape.Alike.of_relabel {rel : Child → Child → Prop} {f : NodeId → NodeId}
    (h : ∀ c : Child, rel (c.relabel f) c) (s : Shape) : (s.relabel f).Alike rel s := by
  have hlist : ∀ cs : List Child, List.Forall₂ rel (cs.map (Child.relabel f)) cs :=
    fun cs => List.forall₂_map_left_iff.mpr (List.forall₂_same.mpr fun c _ => h c)
  cases s with
  | array element => exact .array (h element)
  | tuple members => exact .tuple (hlist members)
  | union members => exact .union (hlist members)
  | intersection members => exact .intersection (hlist members)
  | interface properties superTypes =>
      refine .interface (List.forall₂_map_left_iff.mpr (List.forall₂_same.mpr ?_))
        (hlist superTypes)
      intro p _
      exact ⟨rfl, h p.type, rfl, rfl, rfl⟩
  | enum members =>
      refine .enum (List.forall₂_map_left_iff.mpr (List.forall₂_same.mpr ?_))
      intro m _
      exact ⟨rfl, h m.value⟩
  | _ => exact .leaf rfl

theorem Shape.children_relabel (f : NodeId → NodeId) (s : Shape) :
    (s.relabel f).children = s.children.map (Child.relabel f) := by
  cases s <;> simp [relabel, children, interfaceChildren]

namespace Graph.IsCopied

variable {g g' : Graph} {source : NodeId → NodeId}

theorem corresponds (h : g.IsCopied g' source) (c : Child) :
    g.Corresponds g' (fun a b => a = source b ∧ b < g'.size) (c.relabel source) c := by
  cases c with
  | value v => exact .value rfl rfl
  | node id =>
      have hid := h id
      cases hn : g'.get? id with
      | none =>
          rw [hn] at hid
          exact .value (v := .null) (by simp [Child.relabel, item, hid]) (by simp [item, hn])
      | some n =>
          rw [hn] at hid
          exact .node (item_eq_node_iff.mpr ⟨rfl, hid⟩) (item_eq_node_iff.mpr ⟨rfl, hn⟩)
            ⟨rfl, lt_size_of_get? hn⟩

/-- A graph is similar to a graph of its copies. -/
theorem similar (h : g.IsCopied g' source) :
    g.Similar g' fun a b => a = source b ∧ b < g'.size := by
  rintro _ b ⟨rfl, hlt⟩
  obtain ⟨n, hn⟩ : ∃ n, g'.get? b = some n := ⟨g'.nodes[b], Array.getElem?_eq_getElem hlt⟩
  have hcopy := h b
  rw [hn] at hcopy
  exact ⟨n.relabel source, n, hcopy, hn, rfl, rfl, .of_relabel h.corresponds n.shape⟩

/-- There is a cycle among the copies only if there was one before. -/
theorem acyclic (h : g.IsCopied g' source) (hacyclic : g.Acyclic) : g'.Acyclic := by
  intro id hcycle
  apply hacyclic (source id)
  apply hcycle.lift source
  rintro a b ⟨n, m, hn, hm, hchild⟩
  refine ⟨n.relabel source, m.relabel source, ?_, ?_, ?_⟩
  · rw [h a, hn]
    rfl
  · rw [h b, hm]
    rfl
  · have hmem := List.mem_map_of_mem (f := Child.relabel source) hchild
    rwa [← Shape.children_relabel] at hmem

end Graph.IsCopied

end SchemaDecls
