import SchemaDecls.Pass
import SchemaDecls.Proofs.Exploration
import SchemaDecls.Proofs.Visits

/-!
# The rules of the three passes

What each pass follows and declares, said without plans: `Section.Follows` and
`Section.Declares` are the table in `SchemaDecls.Pass` read as rules, and
`mem_edges_iff` and `declares_iff` say that the plans carry them out.

`Visits.mem_declared_iff` then says of a pass that came to its end what it has
declared in terms of what it has visited.
-/

namespace SchemaDecls

/-- The pass of a section goes on from a node of this shape to the child.
Interfaces are not looked for in tuples, nor enums in unions and
intersections. -/
def Section.Follows (which : Section) : Shape → Child → Prop
  | .array element, c => c = element
  | .tuple members, c => which ≠ .interfaces ∧ c ∈ members
  | .union members, c | .intersection members, c => which ≠ .enums ∧ c ∈ members
  | .interface properties superTypes, c =>
      (∃ property ∈ properties, property.type = c) ∨ c ∈ superTypes
  | _, _ => False

/-- The node has its declaration in the section of a file for a root of this
name. -/
def Section.Declares (o : Options) (rootName : Option String) : Section → Node → Prop
  | .types, n => n.hasName = true ∧ n.kind ≠ .interface ∧ n.kind ≠ .enum
  | .interfaces, n =>
      n.kind = .interface ∧ n.hasName = true ∧
        (n.name = rootName ∨ o.declareReferenced.truthy = true)
  | .enums, n => n.kind = .enum

/-- The pass of a section can come to the node from the root. -/
def Section.Reaches (which : Section) (g : Graph) (root : Child) (id : NodeId) : Prop :=
  SchemaDecls.Reaches g (fun n c => which.Follows n.shape c) root id

/-- Every pass goes where the pass for aliases goes. -/
theorem Section.follows_types {which : Section} {s : Shape} {c : Child} (h : which.Follows s c) :
    Section.types.Follows s c := by
  cases s <;> cases which <;> simp_all [Section.Follows]

/-- Every node that some pass can come to is one that the pass for aliases can
come to. -/
theorem Section.Reaches.types {which : Section} {g : Graph} {root : Child} {id : NodeId}
    (h : which.Reaches g root id) : Section.types.Reaches g root id :=
  SchemaDecls.Reaches.mono h fun _ _ => Section.follows_types

/-- The pass of a section can come to the node from the root on a way through
nodes that have been visited, the root and the node among them. -/
def Section.ReachesWithin (which : Section) (g : Graph) (w : Visited) (root : Child)
    (id : NodeId) : Prop :=
  w.HasNode root ∧
    SchemaDecls.Reaches g (fun n c => which.Follows n.shape c ∧ w.HasNode c) root id

theorem Section.ReachesWithin.reaches {which : Section} {g : Graph} {w : Visited} {root : Child}
    {id : NodeId} (h : which.ReachesWithin g w root id) : which.Reaches g root id :=
  h.2.mono fun _ _ hnext => hnext.1

/-- The way stays open when more is visited. -/
theorem Section.ReachesWithin.later {which : Section} {g : Graph} {v w : Visited} {root : Child}
    {id : NodeId} {ids : List NodeId} (h : which.ReachesWithin g v root id)
    (htrail : Entered g v ids w) : which.ReachesWithin g w root id := by
  refine ⟨htrail.hasNode h.1, h.2.mono ?_⟩
  rintro n c ⟨hfollows, hc⟩
  exact ⟨hfollows, htrail.hasNode hc⟩

namespace Pass

variable (o : Options) (rootName : Option String) {which : Section} {n : Node}

/-- A pass refuses the nodes that are of no type, and only these. -/
theorem plan_eq_none_iff :
    (ofSection o rootName which).plan n = none ↔ n.kind = .bare := by
  obtain ⟨shape, name, comment⟩ := n
  cases which <;> cases shape <;>
    simp [ofSection, types, interfaces, enums, Node.kind, Shape.kind]

/-- The plans of a section follow its rules. -/
theorem mem_edges_iff {c : Child} :
    c ∈ (ofSection o rootName which).edges n ↔ which.Follows n.shape c := by
  obtain ⟨shape, name, comment⟩ := n
  cases which <;> cases shape <;>
    simp [ofSection, types, interfaces, enums, edges, Plan.edges, Section.Follows,
      interfaceChildren]

/-- The plans of a section declare what its rules say. -/
theorem declares_iff (hn : n.kind ≠ .bare) :
    (ofSection o rootName which).declares n = true ↔ which.Declares o rootName n := by
  obtain ⟨shape, name, comment⟩ := n
  cases which <;> cases shape <;>
    simp_all [ofSection, types, interfaces, enums, declares, Section.Declares, Node.kind,
      Shape.kind, declaresInterface, Node.hasName]

/-- What a pass declares is of a type and has its declaration in the section. -/
theorem rule_of_declares {o : Options} {rootName : Option String}
    (h : (ofSection o rootName which).declares n = true) :
    n.kind ≠ .bare ∧ which.Declares o rootName n := by
  have hbare : n.kind ≠ .bare := by
    intro hbare
    rw [declares, (plan_eq_none_iff o rootName).mpr hbare] at h
    contradiction
  exact ⟨hbare, (declares_iff o rootName hbare).mp h⟩

/-- A walk adds only what its pass can come to without leaving what has been
visited in the end. -/
theorem walk_reachesWithin (g : Graph) (which : Section) (c : Child) (v : Visited) :
    ∃ ids, Entered g v ids (Walk.walk g o (ofSection o rootName which) c v).visited ∧
      ∀ id ∈ ids, which.ReachesWithin g
        (Walk.walk g o (ofSection o rootName which) c v).visited c id := by
  obtain ⟨ids, htrail, hreached⟩ := explores_walk g o (ofSection o rootName which) c v
  refine ⟨ids, htrail, ?_⟩
  intro id hid
  obtain ⟨c', hc', hnode, hpath⟩ := hreached id hid
  obtain rfl := List.mem_singleton.mp hc'
  refine ⟨hnode, hpath.mono ?_⟩
  rintro n next ⟨hedge, hnext⟩
  exact ⟨(mem_edges_iff o rootName).mp hedge, hnext⟩

/-- So it adds only what its pass can come to at all. -/
theorem walk_reaches (g : Graph) (which : Section) (c : Child) (v : Visited) :
    ∃ ids, Entered g v ids (Walk.walk g o (ofSection o rootName which) c v).visited ∧
      ∀ id ∈ ids, which.Reaches g c id := by
  obtain ⟨ids, htrail, hreached⟩ := walk_reachesWithin o rootName g which c v
  exact ⟨ids, htrail, fun id hid => (hreached id hid).reaches⟩

end Pass

namespace Visits

variable {g : Graph} {o : Options} {rootName : Option String} {which : Section} {cs : List Child}
  {v w : Visited} {ds : List Declared}

/-- The nodes that the pass has added are of a type, and what they refer to
counts as visited. -/
theorem covers_of_follows (h : Visits g o (Pass.ofSection o rootName which) cs v ds w)
    {id : NodeId} {n : Node} (hn : g.get? id = some n) (hw : id ∈ w.ids) (hv : id ∉ v.ids) :
    n.kind ≠ .bare ∧ ∀ c, which.Follows n.shape c → w.Covers g c := by
  obtain ⟨m, plan, hm, hplan, hcovers⟩ := h.closed hw hv
  rw [hn] at hm
  obtain rfl := Option.some.inj hm
  constructor
  · intro hbare
    rw [(Pass.plan_eq_none_iff o rootName).mpr hbare] at hplan
    contradiction
  · intro c hc
    have hedge := (Pass.mem_edges_iff o rootName).mpr hc
    rw [Pass.edges_of_plan hplan] at hedge
    exact hcovers c hedge

/-- No node is declared twice. -/
theorem nodup_declared {p : Pass} (h : Visits g o p cs v ds w) : (ds.map Declared.id).Nodup := by
  obtain ⟨ids, htrail, hperm⟩ := h.trail
  exact hperm.nodup_iff.mpr (htrail.nodup.filter _)

/-- Declared are the nodes that were added and that have their declaration in
this section. -/
theorem mem_declared_iff (h : Visits g o (Pass.ofSection o rootName which) cs v ds w)
    {id : NodeId} :
    id ∈ ds.map Declared.id ↔
      id ∈ w.ids ∧ id ∉ v.ids ∧ ∃ n, g.get? id = some n ∧ which.Declares o rootName n := by
  obtain ⟨ids, htrail, hperm⟩ := h.trail
  rw [hperm.mem_iff, List.mem_filter, htrail.mem_iff, and_assoc]
  refine and_congr_right fun hw => and_congr_right fun hv => ?_
  obtain ⟨n, hn⟩ := htrail.exists_get? (htrail.mem_iff.mpr ⟨hw, hv⟩)
  have hkind := (h.covers_of_follows hn hw hv).1
  simp [Pass.declaresAt, hn, Pass.declares_iff o rootName hkind]

/-- And with them stand their declarations. -/
theorem mem_iff (h : Visits g o (Pass.ofSection o rootName which) cs v ds w) {d : Declared} :
    d ∈ ds ↔ d.id ∈ w.ids ∧ d.id ∉ v.ids ∧ ∃ n, g.get? d.id = some n ∧
      which.Declares o rootName n ∧ Declaration.ofNode g o n = .ok d.text := by
  constructor
  · intro hd
    obtain ⟨hw, hv, n, hn, hdeclares⟩ := h.mem_declared_iff.mp (List.mem_map_of_mem hd)
    obtain ⟨m, hm, htext⟩ := h.declarationAt hd
    rw [hn] at hm
    obtain rfl := Option.some.inj hm
    exact ⟨hw, hv, n, hn, hdeclares, htext⟩
  · rintro ⟨hw, hv, n, hn, hdeclares, htext⟩
    obtain ⟨e, he, hid⟩ := List.mem_map.mp (h.mem_declared_iff.mpr ⟨hw, hv, n, hn, hdeclares⟩)
    obtain ⟨m, hm, htext'⟩ := h.declarationAt he
    rw [hid, hn] at hm
    obtain rfl := Option.some.inj hm
    rw [htext] at htext'
    have heq : e = d := by
      obtain ⟨i, t⟩ := e
      obtain ⟨j, u⟩ := d
      obtain rfl : i = j := hid
      obtain rfl : u = t := Except.ok.inj htext'
      rfl
    exact heq ▸ he

end Visits

end SchemaDecls
