import SchemaDecls.Schema.Node

/-!
# Schema graphs

A graph is an array of nodes, and a node is known by its place in it. Looking a child up gives the
node that it denotes or the value that it is; a number that no node has denotes `null`.
-/

namespace SchemaDecls

/-- The nodes of a schema. -/
structure Graph where
  nodes : Array Node
deriving Inhabited

/-- What a child denotes. -/
inductive Item where
  | node (id : NodeId) (n : Node)
  | value (v : Value)
deriving Inhabited

namespace Graph

/-- The number of nodes. -/
def size (g : Graph) : Nat := g.nodes.size

/-- The node with this number. -/
def get? (g : Graph) (id : NodeId) : Option Node := g.nodes[id]?

/-- What a child denotes in the graph. -/
def item (g : Graph) : Child → Item
  | .node id =>
      match g.get? id with
      | some n => .node id n
      | none => .value .null
  | .value v => .value v

/-- The graph with one more node, whose number is the size of the graph. -/
def push (g : Graph) (n : Node) : Graph := ⟨g.nodes.push n⟩

theorem item_eq_node_iff {g : Graph} {c : Child} {id : NodeId} {n : Node} :
    g.item c = .node id n ↔ c = .node id ∧ g.get? id = some n := by
  cases c with
  | value v => simp [item]
  | node i =>
    cases h : g.get? i with
    | none =>
      simp only [item, h, reduceCtorEq, Child.node.injEq, false_iff, not_and]
      rintro rfl
      simp [h]
    | some m =>
      simp only [item, h, Item.node.injEq, Child.node.injEq]
      exact ⟨fun ⟨hi, hm⟩ => ⟨hi, by rw [← hi, h, hm]⟩,
        fun ⟨hi, hm⟩ => ⟨hi, by rw [← hi, h] at hm; exact Option.some.inj hm⟩⟩

theorem get?_of_item {g : Graph} {c : Child} {id : NodeId} {n : Node}
    (h : g.item c = .node id n) : g.get? id = some n :=
  (item_eq_node_iff.mp h).2

/-- A child denotes one node at most. -/
theorem item_inj {g : Graph} {c : Child} {id id' : NodeId} {n n' : Node}
    (h : g.item c = .node id n) (h' : g.item c = .node id' n') : id = id' ∧ n = n' :=
  Item.node.inj (h.symm.trans h')

theorem lt_size_of_get? {g : Graph} {id : NodeId} {n : Node} (h : g.get? id = some n) :
    id < g.size :=
  (Array.getElem?_eq_some_iff.mp h).1

@[simp] theorem size_push (g : Graph) (n : Node) : (g.push n).size = g.size + 1 := by
  simp [size, push]

/-- The node that was added has the number it was added under. -/
@[simp] theorem get?_push_size (g : Graph) (n : Node) : (g.push n).get? g.size = some n := by
  simp [get?, push, size]

/-- Adding a node leaves the others as they are. -/
theorem get?_push_of_lt {g : Graph} {id : NodeId} (n : Node) (h : id < g.size) :
    (g.push n).get? id = g.get? id := by
  simp only [get?, push, size] at *
  rw [Array.getElem?_push]
  simp [Nat.ne_of_lt h]

end Graph

end SchemaDecls
