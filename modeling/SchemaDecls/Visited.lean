import SchemaDecls.Schema.Node

/-!
# Visited nodes

Each pass over a graph remembers the nodes that it has visited, and beside them their standalone
names. A node counts as visited if it was visited itself or if another node of its name was: two
nodes of one name stand for one declaration. A node without a name counts by itself only.

`Memo` is what all three passes remember.
-/

namespace SchemaDecls

/-- The nodes that a pass has visited. -/
structure Visited where
  /-- The numbers of the nodes, each once. -/
  ids : List NodeId
  /-- The standalone names of the nodes, each once. -/
  names : List String
deriving Repr, Inhabited

namespace Visited

/-- Nothing has been visited. -/
def empty : Visited := ⟨[], []⟩

/-- A node counts as visited. -/
def holds (v : Visited) (id : NodeId) (n : Node) : Bool :=
  v.ids.contains id || n.name.any v.names.contains

/-- Remembers a node and its name. -/
def insert (v : Visited) (id : NodeId) (n : Node) : Visited where
  ids := v.ids.insert id
  names :=
    match n.name with
    | some name => v.names.insert name
    | none => v.names

/-- The number of different nodes that have been visited. -/
def size (v : Visited) : Nat := v.ids.length

/-- The names of the visited nodes in the order of their code points. -/
def sortedNames (v : Visited) : List String := v.names.mergeSort fun a b => !decide (b < a)

theorem holds_iff {v : Visited} {id : NodeId} {n : Node} :
    v.holds id n = true ↔ id ∈ v.ids ∨ ∃ name, n.name = some name ∧ name ∈ v.names := by
  cases h : n.name <;> simp [holds, h]

@[simp] theorem holds_empty (id : NodeId) (n : Node) : empty.holds id n = false := by
  cases h : n.name <;> simp [holds, empty, h]

theorem mem_ids_insert {v : Visited} {id other : NodeId} {n : Node} :
    other ∈ (v.insert id n).ids ↔ other = id ∨ other ∈ v.ids := by
  simp [insert]

theorem mem_names_insert {v : Visited} {id : NodeId} {n : Node} {name : String} :
    name ∈ (v.insert id n).names ↔ n.name = some name ∨ name ∈ v.names := by
  cases h : n.name with
  | none => simp [insert, h]
  | some own => simp [insert, h, eq_comm]

/-- A node counts as visited once it has been remembered. -/
theorem holds_insert_self (v : Visited) (id : NodeId) (n : Node) :
    (v.insert id n).holds id n = true :=
  holds_iff.mpr (.inl (mem_ids_insert.mpr (.inl rfl)))

end Visited

/-- The sections of a file, each written by a pass of its own. -/
inductive Section where
  | types
  | interfaces
  | enums
deriving DecidableEq, Repr

/-- What the passes have visited, each for itself. -/
structure Memo where
  types : Visited
  interfaces : Visited
  enums : Visited
deriving Repr, Inhabited

namespace Memo

/-- No pass has visited anything. -/
def empty : Memo := ⟨.empty, .empty, .empty⟩

/-- What one of the passes has visited. -/
def get (m : Memo) : Section → Visited
  | .types => m.types
  | .interfaces => m.interfaces
  | .enums => m.enums

/-- Replaces what one of the passes has visited. -/
def set (m : Memo) (which : Section) (v : Visited) : Memo :=
  match which with
  | .types => { m with types := v }
  | .interfaces => { m with interfaces := v }
  | .enums => { m with enums := v }

@[simp] theorem get_set_self (m : Memo) (which : Section) (v : Visited) :
    (m.set which v).get which = v := by
  cases which <;> rfl

theorem get_set_of_ne (m : Memo) {which other : Section} (v : Visited) (h : other ≠ which) :
    (m.set which v).get other = m.get other := by
  cases which <;> cases other <;> simp_all [get, set]

end Memo

end SchemaDecls
