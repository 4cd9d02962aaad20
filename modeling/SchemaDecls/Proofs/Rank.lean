import Mathlib.Data.Finset.Card
import Mathlib.Data.Finset.Range
import Mathlib.Logic.Relation
import SchemaDecls.Schema.Graph

/-!
# Ranks of nodes

A recursion over a graph that takes a depth asks how far one can go down.  Where
the relation that leads down has no cycles, each node has a rank, namely the number
of nodes below it (`rank`): ranks become smaller with every step
(`rank_lt_rank`), and none is as large as the number of nodes
(`rank_lt_of_lt`).

Two relations are of interest.  `Graph.Refers` leads from a node to all of its
children, whatever they are there for.  `Graph.Nests` leads only from unnamed
nodes to unnamed nodes; type expressions are expanded along it.
-/

namespace SchemaDecls

/-! ## Relations without cycles -/

section

variable {r : NodeId → NodeId → Prop} {size a b : Nat}

open Classical in
/-- The nodes that the relation leads to from a node, out of the first so many. -/
noncomputable def below (r : NodeId → NodeId → Prop) (size : Nat) (id : NodeId) : Finset NodeId :=
  (Finset.range size).filter (Relation.TransGen r id)

/-- How many nodes are below. -/
noncomputable def rank (r : NodeId → NodeId → Prop) (size : Nat) (id : NodeId) : Nat :=
  (below r size id).card

theorem mem_below_iff : b ∈ below r size a ↔ b < size ∧ Relation.TransGen r a b := by
  simp [below]

theorem rank_lt_rank (hacyclic : ∀ id, ¬ Relation.TransGen r id id) (h : r a b) (hb : b < size) :
    rank r size b < rank r size a := by
  apply Finset.card_lt_card
  apply Finset.ssubset_iff_subset_ne.mpr
  constructor
  · intro c hc
    obtain ⟨hlt, hbelow⟩ := mem_below_iff.mp hc
    exact mem_below_iff.mpr ⟨hlt, hbelow.head h⟩
  · intro heq
    have hmem : b ∈ below r size a := mem_below_iff.mpr ⟨hb, .single h⟩
    rw [← heq] at hmem
    exact hacyclic b (mem_below_iff.mp hmem).2

theorem rank_lt_of_lt (hacyclic : ∀ id, ¬ Relation.TransGen r id id) (ha : a < size) :
    rank r size a < size := by
  have hlt : rank r size a < (Finset.range size).card := by
    apply Finset.card_lt_card
    apply Finset.ssubset_iff_subset_ne.mpr
    constructor
    · intro c hc
      exact Finset.mem_range.mpr (mem_below_iff.mp hc).1
    · intro heq
      have hmem : a ∈ Finset.range size := Finset.mem_range.mpr ha
      have hself : a ∈ below r size a := heq.symm ▸ hmem
      exact hacyclic a (mem_below_iff.mp hself).2
  rwa [Finset.card_range] at hlt

end

/-! ## References -/

/-- The children of a shape, also those that no pass visits. -/
def Shape.children : Shape → List Child
  | .array element => [element]
  | .tuple members | .union members | .intersection members => members
  | .interface properties superTypes => interfaceChildren properties superTypes
  | .enum members => members.map EnumMember.value
  | _ => []

namespace Graph

/-- The first node has the second one as a child. -/
def Refers (g : Graph) (a b : NodeId) : Prop :=
  ∃ n m, g.get? a = some n ∧ g.get? b = some m ∧ .node b ∈ n.shape.children

/-- Both nodes are unnamed, and the first one has the second one as a child. -/
def Nests (g : Graph) (a b : NodeId) : Prop :=
  ∃ n m, g.get? a = some n ∧ g.get? b = some m ∧ .node b ∈ n.shape.children ∧
    n.name = none ∧ m.name = none

/-- No node comes back to itself. -/
def Acyclic (g : Graph) : Prop := ∀ id, ¬ Relation.TransGen g.Refers id id

/-- No cycle is made of unnamed nodes alone. -/
def Unfolds (g : Graph) : Prop := ∀ id, ¬ Relation.TransGen g.Nests id id

variable {g : Graph}

theorem Acyclic.unfolds (h : g.Acyclic) : g.Unfolds := by
  have hle : g.Nests ≤ g.Refers := by
    rintro a b ⟨n, m, hn, hm, hchild, -, -⟩
    exact ⟨n, m, hn, hm, hchild⟩
  intro id hcycle
  exact h id (Relation.TransGen.mono hle id id hcycle)

theorem refers_of_mem {id child : NodeId} {n m : Node} {c : Child} (hn : g.get? id = some n)
    (hc : c ∈ n.shape.children) (hitem : g.item c = .node child m) : g.Refers id child := by
  obtain ⟨rfl, hm⟩ := item_eq_node_iff.mp hitem
  exact ⟨n, m, hn, hm, hc⟩

theorem nests_of_mem {id child : NodeId} {n m : Node} {c : Child} (hn : g.get? id = some n)
    (hname : n.name = none) (hc : c ∈ n.shape.children) (hitem : g.item c = .node child m)
    (hchild : m.name = none) : g.Nests id child := by
  obtain ⟨rfl, hm⟩ := item_eq_node_iff.mp hitem
  exact ⟨n, m, hn, hm, hc, hname, hchild⟩

/-- Where every step leads to a larger number, no way comes back. -/
theorem not_transGen_self {step : NodeId → NodeId → Prop} (h : step ≤ (· < ·)) (id : NodeId) :
    ¬ Relation.TransGen step id id := by
  intro hcycle
  have hlt := Relation.TransGen.mono h id id hcycle
  rw [Relation.transGen_eq_self] at hlt
  exact Nat.lt_irrefl id hlt

/-- A graph has no cycles if all children have larger numbers than their nodes. -/
theorem acyclic_of_forall_lt
    (h : ∀ a < g.size, (g.get? a).all (fun n => n.shape.children.all fun c =>
      match c with
      | .node b => a < b
      | .value _ => true) = true) : g.Acyclic := by
  apply not_transGen_self
  rintro a b ⟨n, m, hn, -, hchild⟩
  have ha := h a (lt_size_of_get? hn)
  rw [hn] at ha
  simpa using List.all_eq_true.mp ha _ hchild

/-- Nodes unfold if the unnamed children of unnamed nodes have larger numbers. -/
theorem unfolds_of_forall_lt
    (h : ∀ a < g.size, (g.get? a).all (fun n => n.hasName || n.shape.children.all fun c =>
      match c with
      | .node b => a < b || (g.get? b).all Node.hasName
      | .value _ => true) = true) : g.Unfolds := by
  apply not_transGen_self
  rintro a b ⟨n, m, hn, hm, hchild, hname, hname'⟩
  have hunnamed : n.hasName = false := by simp [Node.hasName, hname]
  have hunnamed' : m.hasName = false := by simp [Node.hasName, hname']
  have ha := h a (lt_size_of_get? hn)
  simp only [hn, Option.all_some, hunnamed, Bool.false_or] at ha
  simpa [hm, hunnamed'] using List.all_eq_true.mp ha _ hchild

end Graph

end SchemaDecls
