import SchemaDecls.Proofs.Trail
import SchemaDecls.Walk

/-!
# Where a walk comes

A child reaches the nodes that are found by following edges from the node that
it denotes.  Every walk leaves a trail, and each node on the trail is reached
from the child at which the walk started, by a path that stays within what has
been visited (`explores_walk`).  This holds however the walk ends: a walk that
fails has come no farther than one that returns.
-/

namespace SchemaDecls

/-- Following edges from a child leads to a node. -/
inductive Reaches (g : Graph) (follows : Node → Child → Prop) : Child → NodeId → Prop
  | here {c : Child} {id : NodeId} {n : Node} (hitem : g.item c = .node id n) :
      Reaches g follows c id
  | step {c next : Child} {id target : NodeId} {n : Node} (hitem : g.item c = .node id n)
      (hnext : follows n next) (hrest : Reaches g follows next target) :
      Reaches g follows c target

namespace Reaches

variable {g : Graph} {follows follows' : Node → Child → Prop} {c : Child} {id : NodeId}

theorem mono (h : Reaches g follows c id) (hle : ∀ n c', follows n c' → follows' n c') :
    Reaches g follows' c id := by
  induction h with
  | here hitem => exact .here hitem
  | step hitem hnext _ ih => exact .step hitem (hle _ _ hnext) ih

/-- A path may go on where it has come to. -/
theorem trans {next : Child} {n : Node} {target : NodeId} (h : Reaches g follows c id)
    (hn : g.get? id = some n) (hnext : follows n next) (hrest : Reaches g follows next target) :
    Reaches g follows c target := by
  induction h with
  | here hitem =>
      have hm := Graph.get?_of_item hitem
      rw [hn] at hm
      obtain rfl := Option.some.inj hm
      exact .step hitem hnext hrest
  | step hitem hnext' _ ih => exact .step hitem hnext' (ih hn)

theorem exists_get? (h : Reaches g follows c id) : ∃ n, g.get? id = some n := by
  induction h with
  | here hitem => exact ⟨_, Graph.get?_of_item hitem⟩
  | step _ _ _ ih => exact ih

/-- A path has come to its end from the start itself, or by an edge from a node
before. -/
theorem last (h : Reaches g follows c id) :
    c = .node id ∨
      ∃ before n, Reaches g follows c before ∧ g.get? before = some n ∧ follows n (.node id) := by
  induction h with
  | here hitem => exact .inl (Graph.item_eq_node_iff.mp hitem).1
  | @step c next first target n hitem hnext _ ih =>
      rcases ih with rfl | ⟨before, m, hbefore, hm, hlast⟩
      · exact .inr ⟨first, n, .here hitem, Graph.get?_of_item hitem, hnext⟩
      · exact .inr ⟨before, m, .step hitem hnext hbefore, hm, hlast⟩

end Reaches

/-- The child denotes a node that has itself been visited. -/
def Visited.HasNode (w : Visited) (c : Child) : Prop :=
  ∃ id ∈ w.ids, c = .node id

theorem Entered.hasNode {g : Graph} {v w : Visited} {ids : List NodeId} {c : Child}
    (h : Entered g v ids w) (hc : v.HasNode c) : w.HasNode c := by
  obtain ⟨id, hid, rfl⟩ := hc
  exact ⟨id, h.mem_ids hid, rfl⟩

/-- An edge of the pass that leads to a node that has been visited. -/
def Pass.FollowsWithin (p : Pass) (w : Visited) (n : Node) (c : Child) : Prop :=
  c ∈ p.edges n ∧ w.HasNode c

/-- The pass has come from `v` to `w` on ways that start at the children `cs`
and do not leave what has been visited. -/
def Explores (g : Graph) (p : Pass) (cs : List Child) (v w : Visited) : Prop :=
  ∃ ids, Entered g v ids w ∧
    ∀ id ∈ ids, ∃ c ∈ cs, w.HasNode c ∧ Reaches g (p.FollowsWithin w) c id

theorem Pass.edges_of_plan {p : Pass} {n : Node} {plan : Plan} (h : p.plan n = some plan) :
    p.edges n = plan.before ++ plan.after := by
  simp [edges, h, Plan.edges]

namespace Explores

variable {g : Graph} {o : Options} {p : Pass} {cs more : List Child} {u v w : Visited}

theorem refl (cs : List Child) (v : Visited) : Explores g p cs v v :=
  ⟨[], .nil, by simp⟩

theorem mono (h : Explores g p cs v w) (hsub : ∀ c ∈ cs, c ∈ more) : Explores g p more v w := by
  obtain ⟨ids, htrail, hreached⟩ := h
  refine ⟨ids, htrail, ?_⟩
  intro id hid
  obtain ⟨c, hc, hrest⟩ := hreached id hid
  exact ⟨c, hsub c hc, hrest⟩

theorem trans (huv : Explores g p cs u v) (hvw : Explores g p cs v w) : Explores g p cs u w := by
  obtain ⟨ids, htrail, hreached⟩ := huv
  obtain ⟨more, htrail', hreached'⟩ := hvw
  refine ⟨more ++ ids, htrail.trans htrail', ?_⟩
  intro id hid
  rcases List.mem_append.mp hid with hid | hid
  · exact hreached' id hid
  · obtain ⟨c, hc, hnode, hpath⟩ := hreached id hid
    refine ⟨c, hc, htrail'.hasNode hnode, hpath.mono ?_⟩
    rintro n c' ⟨hedge, hc'⟩
    exact ⟨hedge, htrail'.hasNode hc'⟩

/-- A walk that adds a node and goes on from its children. -/
theorem enter {c : Child} {id : NodeId} {n : Node} (hitem : g.item c = .node id n)
    (hnew : v.holds id n = false) (h : Explores g p (p.edges n) (v.insert id n) w) :
    Explores g p [c] v w := by
  obtain ⟨hc, hn⟩ := Graph.item_eq_node_iff.mp hitem
  obtain ⟨ids, htrail, hreached⟩ := h
  have hnode : w.HasNode c :=
    ⟨id, htrail.mem_ids (Visited.mem_ids_insert.mpr (.inl rfl)), hc⟩
  refine ⟨ids ++ [id], (Entered.single hn hnew).trans htrail, ?_⟩
  intro target htarget
  refine ⟨c, List.mem_singleton_self c, hnode, ?_⟩
  rcases List.mem_append.mp htarget with hmem | hmem
  · obtain ⟨next, hedge, hnext, hpath⟩ := hreached target hmem
    exact .step hitem ⟨hedge, hnext⟩ hpath
  · obtain rfl := List.mem_singleton.mp hmem
    exact .here hitem

theorem andThen {first : Outcome} {next : Visited → Outcome}
    (hfirst : Explores g p cs v first.visited)
    (hnext : ∀ u, Explores g p cs u (next u).visited) :
    Explores g p cs v (first.andThen next).visited := by
  cases hresult : first.result with
  | error f => simpa [Outcome.andThen_of_error hresult] using hfirst
  | ok ds =>
      rw [Outcome.andThen_of_ok hresult]
      exact hfirst.trans (hnext first.visited)

theorem declareIf (declares : Bool) (id : NodeId) (n : Node) (u : Visited) :
    Explores g p cs u (Walk.declareIf declares g o id n u).visited := by
  cases declares with
  | false => exact refl cs u
  | true => exact refl cs u

theorem visitAll {visit : Child → Visited → Outcome}
    (hvisit : ∀ c u, Explores g p [c] u (visit c u).visited) (cs : List Child) (v : Visited) :
    Explores g p cs v (Walk.visitAll visit cs v).visited := by
  induction cs generalizing v with
  | nil => exact refl [] v
  | cons c rest ih =>
      unfold Walk.visitAll
      apply andThen
      · exact (hvisit c v).mono (by simp)
      · intro u
        exact (ih u).mono (by intro c' hc'; exact List.mem_cons_of_mem c hc')

theorem follow {visit : Child → Visited → Outcome}
    (hvisit : ∀ c u, Explores g p [c] u (visit c u).visited) (id : NodeId) (n : Node)
    (plan : Plan) (v : Visited) :
    Explores g p (plan.before ++ plan.after) v
      (Walk.follow visit g o id n plan v).visited := by
  unfold Walk.follow
  apply andThen
  · apply andThen
    · exact (visitAll hvisit plan.before v).mono (fun c hc => List.mem_append_left _ hc)
    · exact declareIf plan.declares id n
  · intro u
    exact (visitAll hvisit plan.after u).mono (fun c hc => List.mem_append_right _ hc)

end Explores

/-- However deep it goes and however it ends, a walk explores from its child on. -/
theorem explores_walkUpTo (g : Graph) (o : Options) (p : Pass) (depth : Nat) (c : Child)
    (v : Visited) : Explores g p [c] v (Walk.walkUpTo g o p depth c v).visited := by
  induction depth generalizing c v with
  | zero => exact .refl [c] v
  | succ depth ih =>
      cases hitem : g.item c with
      | value x =>
          rw [Walk.walkUpTo_of_value hitem]
          exact .refl [c] v
      | node id n =>
          cases hheld : v.holds id n with
          | true =>
              rw [Walk.walkUpTo_of_holds hitem hheld]
              exact .refl [c] v
          | false =>
              cases hplan : p.plan n with
              | none =>
                  rw [Walk.walkUpTo_of_plan_eq_none hitem hheld hplan]
                  exact .enter hitem hheld (.refl _ _)
              | some plan =>
                  rw [Walk.walkUpTo_of_plan_eq_some hitem hheld hplan]
                  apply Explores.enter hitem hheld
                  rw [Pass.edges_of_plan hplan]
                  exact .follow ih id n plan _

theorem explores_walk (g : Graph) (o : Options) (p : Pass) (c : Child) (v : Visited) :
    Explores g p [c] v (Walk.walk g o p c v).visited :=
  explores_walkUpTo g o p (g.size + 1) c v

end SchemaDecls
