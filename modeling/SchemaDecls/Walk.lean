import SchemaDecls.Declaration
import SchemaDecls.Visited

/-!
# Walks over a graph

A pass says what to do at a node: which children to visit before the node's own declaration, whether
to declare the node, and which children to visit afterwards. A walk carries a pass out from a given
child on and collects the declarations in the order in which they are written.

A node is remembered before its children are visited. So a node that several parents share is
declared once, and a walk along a cycle ends where it comes back. Every step down remembers one more
node, so a walk never goes deeper than one level more than there are nodes; `walk` takes this depth,
and `walkUpTo` any.

A walk that fails keeps what it has visited until then.
-/

namespace SchemaDecls

/-- What a pass does at a node. -/
structure Plan where
  before : List Child
  /-- The node itself is declared. -/
  declares : Bool
  after : List Child
deriving Inhabited

/-- The children that are visited. -/
def Plan.edges (p : Plan) : List Child := p.before ++ p.after

/-- A pass, by its plan for every node. It has none for nodes that are of no type. -/
structure Pass where
  plan : Node → Option Plan

/-- The children of a node that a pass visits. -/
def Pass.edges (p : Pass) (n : Node) : List Child := ((p.plan n).map Plan.edges).getD []

/-- The pass declares the node. -/
def Pass.declares (p : Pass) (n : Node) : Bool := (p.plan n).any Plan.declares

/-- A declaration together with the node that it declares. -/
structure Declared where
  id : NodeId
  text : String
deriving DecidableEq, Repr

/-- How a walk ended: its declarations or why it failed, and what has been visited. -/
structure Outcome where
  result : Except Failure (List Declared)
  visited : Visited

/-- Goes on after a walk, from what has been visited, unless the walk failed. -/
def Outcome.andThen (first : Outcome) (next : Visited → Outcome) : Outcome :=
  match first.result with
  | .error _ => first
  | .ok declared =>
      ⟨(next first.visited).result.map (declared ++ ·), (next first.visited).visited⟩

theorem Outcome.andThen_of_error {first : Outcome} {next : Visited → Outcome} {f : Failure}
    (h : first.result = .error f) : first.andThen next = first := by
  simp [andThen, h]

theorem Outcome.andThen_of_ok {first : Outcome} {next : Visited → Outcome} {ds : List Declared}
    (h : first.result = .ok ds) :
    first.andThen next =
      ⟨(next first.visited).result.map (ds ++ ·), (next first.visited).visited⟩ := by
  simp [andThen, h]

namespace Walk

/-- Visits the children in their order, each with what was visited before it. -/
def visitAll (visit : Child → Visited → Outcome) : List Child → Visited → Outcome
  | [], v => ⟨.ok [], v⟩
  | c :: rest, v => (visit c v).andThen (visitAll visit rest)

/-- Declares a node if it is to be declared. -/
def declareIf (declares : Bool) (g : Graph) (o : Options) (id : NodeId) (n : Node)
    (v : Visited) : Outcome :=
  if declares then ⟨(Declaration.ofNode g o n).map fun text => [⟨id, text⟩], v⟩ else ⟨.ok [], v⟩

/-- Carries out the plan for a node, given how children are visited. -/
def follow (visit : Child → Visited → Outcome) (g : Graph) (o : Options) (id : NodeId) (n : Node)
    (plan : Plan) (v : Visited) : Outcome :=
  ((visitAll visit plan.before v).andThen (declareIf plan.declares g o id n)).andThen
    (visitAll visit plan.after)

/-- The walk of a pass from a child on, down to a depth of so many nodes. -/
def walkUpTo (g : Graph) (o : Options) (p : Pass) : Nat → Child → Visited → Outcome
  | 0, _, v => ⟨.error .endlessNesting, v⟩
  | depth + 1, c, v =>
      match g.item c with
      | .value x => ⟨.error (.unsupported (.value x)), v⟩
      | .node id n =>
          if v.holds id n then ⟨.ok [], v⟩
          else
            match p.plan n with
            | none => ⟨.error (.unsupported n.offender), v.insert id n⟩
            | some plan => follow (walkUpTo g o p depth) g o id n plan (v.insert id n)

/-- The walk of a pass from a child on. -/
def walk (g : Graph) (o : Options) (p : Pass) (c : Child) (v : Visited) : Outcome :=
  walkUpTo g o p (g.size + 1) c v

/-! ## One step of a walk -/

/-- A value is not visited. -/
theorem walkUpTo_of_value {g : Graph} {o : Options} {p : Pass} {depth : Nat} {c : Child}
    {v : Visited} {x : Value} (h : g.item c = .value x) :
    walkUpTo g o p (depth + 1) c v = ⟨.error (.unsupported (.value x)), v⟩ := by
  simp [walkUpTo, h]

/-- A node that counts as visited is passed over. -/
theorem walkUpTo_of_holds {g : Graph} {o : Options} {p : Pass} {depth : Nat} {c : Child}
    {v : Visited} {id : NodeId} {n : Node} (h : g.item c = .node id n)
    (hv : v.holds id n = true) : walkUpTo g o p (depth + 1) c v = ⟨.ok [], v⟩ := by
  simp [walkUpTo, h, hv]

/-- A node without a plan is remembered and then refused. -/
theorem walkUpTo_of_plan_eq_none {g : Graph} {o : Options} {p : Pass} {depth : Nat} {c : Child}
    {v : Visited} {id : NodeId} {n : Node} (h : g.item c = .node id n)
    (hv : v.holds id n = false) (hp : p.plan n = none) :
    walkUpTo g o p (depth + 1) c v = ⟨.error (.unsupported n.offender), v.insert id n⟩ := by
  simp [walkUpTo, h, hv, hp]

/-- Any other node is remembered, and its plan is carried out. -/
theorem walkUpTo_of_plan_eq_some {g : Graph} {o : Options} {p : Pass} {depth : Nat} {c : Child}
    {v : Visited} {id : NodeId} {n : Node} {plan : Plan} (h : g.item c = .node id n)
    (hv : v.holds id n = false) (hp : p.plan n = some plan) :
    walkUpTo g o p (depth + 1) c v =
      follow (walkUpTo g o p depth) g o id n plan (v.insert id n) := by
  simp [walkUpTo, h, hv, hp]

end Walk

end SchemaDecls
