import SchemaDecls.Proofs.Coverage
import SchemaDecls.Proofs.Depth

/-!
# When runs return

A pass has trouble with a node if it has no plan for it, if the declaration that
it asks for cannot be written, or if one of the children that it visits is no
node; otherwise it admits the node (`Pass.Admits`).  A pass that admits all that
it can come to returns, whatever it has visited before (`Walk.walk_returns`).
Conversely it has admitted all that it has added once it returns
(`Visits.admits`).

The first of these cannot be read off the walk alone, for a walk could also fail
for being too deep.  It goes by the number of nodes that are left.
-/

namespace SchemaDecls

/-- The child denotes a node. -/
def Graph.HasNode (g : Graph) (c : Child) : Prop := ∃ id n, g.item c = .node id n

/-- The pass has no trouble with the node: there is a plan for it, its
declaration can be written if it is asked for, and the children that are visited
are nodes. -/
def Pass.Admits (p : Pass) (g : Graph) (o : Options) (id : NodeId) : Prop :=
  ∃ n plan, g.get? id = some n ∧ p.plan n = some plan ∧
    (plan.declares = true → ∃ text, Declaration.ofNode g o n = .ok text) ∧
    ∀ c ∈ plan.edges, g.HasNode c

/-- A pass that comes to its end has admitted all that it has added. -/
theorem Visits.admits {g : Graph} {o : Options} {p : Pass} {cs : List Child} {v w : Visited}
    {ds : List Declared} (h : Visits g o p cs v ds w) {id : NodeId} (hw : id ∈ w.ids)
    (hv : id ∉ v.ids) : p.Admits g o id := by
  obtain ⟨n, plan, own, hn, hplan, hown, hcovers⟩ := (h.hadTurn hw hv).covers
  refine ⟨n, plan, hn, hplan, ?_, ?_⟩
  · intro hdeclares
    rw [hdeclares] at hown
    cases hown with
    | declared htext => exact ⟨_, htext⟩
  · intro c hc
    obtain ⟨child, m, hitem, -⟩ := hcovers c hc
    exact ⟨child, m, hitem⟩

/-! ## Walks that return -/

/-- The walk returns. -/
def Outcome.Returns (out : Outcome) : Prop := ∃ ds, out.result = .ok ds

theorem Outcome.Returns.andThen {first : Outcome} {next : Visited → Outcome}
    (hfirst : first.Returns) (hnext : (next first.visited).Returns) :
    (first.andThen next).Returns := by
  obtain ⟨ds, hds⟩ := hfirst
  obtain ⟨more, hmore⟩ := hnext
  refine ⟨ds ++ more, ?_⟩
  rw [Outcome.andThen_of_ok hds, hmore]
  rfl

namespace Walk

section

variable {g : Graph} {o : Options} {visit : Child → Visited → Outcome} {left : Nat}

theorem visitAll_returns (hgrow : ∀ c u, ∃ ids, Entered g u ids (visit c u).visited)
    {cs : List Child}
    (h : ∀ c ∈ cs, ∀ u, (g.fresh u).card ≤ left → (visit c u).Returns) {v : Visited}
    (hv : (g.fresh v).card ≤ left) : (visitAll visit cs v).Returns := by
  induction cs generalizing v with
  | nil => exact ⟨[], rfl⟩
  | cons c rest ih =>
      obtain ⟨hfirst, hrest⟩ := List.forall_mem_cons.mp h
      obtain ⟨ids, htrail⟩ := hgrow c v
      exact (hfirst v hv).andThen (ih hrest (Nat.le_trans (Graph.fresh_le htrail) hv))

theorem follow_returns (hgrow : ∀ c u, ∃ ids, Entered g u ids (visit c u).visited) (id : NodeId)
    {n : Node} {plan : Plan}
    (hdeclares : plan.declares = true → ∃ text, Declaration.ofNode g o n = .ok text)
    (h : ∀ c ∈ plan.edges, ∀ u, (g.fresh u).card ≤ left → (visit c u).Returns) {v : Visited}
    (hv : (g.fresh v).card ≤ left) : (follow visit g o id n plan v).Returns := by
  have hbefore : ∀ c ∈ plan.before, ∀ u, (g.fresh u).card ≤ left → (visit c u).Returns :=
    fun c hc => h c (List.mem_append_left _ hc)
  have hafter : ∀ c ∈ plan.after, ∀ u, (g.fresh u).card ≤ left → (visit c u).Returns :=
    fun c hc => h c (List.mem_append_right _ hc)
  have hown : ∀ u, (declareIf plan.declares g o id n u).Returns := by
    intro u
    unfold declareIf
    cases hd : plan.declares with
    | false => exact ⟨[], rfl⟩
    | true =>
        obtain ⟨text, htext⟩ := hdeclares hd
        exact ⟨[⟨id, text⟩], by simp [htext, Except.map]⟩
  obtain ⟨ids, htrail⟩ := visitAll_grows hgrow plan.before v
  apply ((visitAll_returns hgrow hbefore hv).andThen (hown _)).andThen
  apply visitAll_returns hgrow hafter
  rw [andThen_declareIf_visited]
  exact Nat.le_trans (Graph.fresh_le htrail) hv

end

/-- A pass that admits all that it can come to returns, given the depth for the
nodes that are left. -/
theorem walkUpTo_returns {g : Graph} {o : Options} {p : Pass} {depth : Nat} {c : Child}
    {v : Visited} (hc : g.HasNode c)
    (h : ∀ id, Reaches g (fun n next => next ∈ p.edges n) c id → p.Admits g o id)
    (hdepth : (g.fresh v).card < depth) : (walkUpTo g o p depth c v).Returns := by
  induction depth generalizing c v with
  | zero => omega
  | succ depth ih =>
      obtain ⟨id, n, hitem⟩ := hc
      cases hheld : v.holds id n with
      | true =>
          rw [walkUpTo_of_holds hitem hheld]
          exact ⟨[], rfl⟩
      | false =>
          have hn := Graph.get?_of_item hitem
          obtain ⟨m, plan, hm, hplan, hdeclares, hchildren⟩ := h id (.here hitem)
          rw [hn] at hm
          obtain rfl := Option.some.inj hm
          rw [walkUpTo_of_plan_eq_some hitem hheld hplan]
          have hless := Graph.fresh_insert_lt hn hheld
          apply follow_returns (walkUpTo_grows g o p depth) id hdeclares _ (Nat.le_refl _)
          intro next hnext u hu
          have hedge : next ∈ p.edges n := by
            rw [Pass.edges_of_plan hplan]
            exact hnext
          apply ih (hchildren next hnext) _ (by omega)
          intro other hother
          exact h other (.step hitem hedge hother)

theorem walk_returns {g : Graph} {o : Options} {p : Pass} {c : Child} (hc : g.HasNode c)
    (h : ∀ id, Reaches g (fun n next => next ∈ p.edges n) c id → p.Admits g o id) (v : Visited) :
    (walk g o p c v).Returns :=
  walkUpTo_returns hc h (Nat.lt_succ_of_le (g.fresh_le_size v))

end Walk

/-! ## Passes that come to their end are walks that return -/

/-- Two walks in a row that both return. -/
theorem Outcome.andThen_of_eq_ok {first : Outcome} {next : Visited → Outcome} {u w : Visited}
    {ds more : List Declared} (hfirst : first = ⟨.ok ds, u⟩) (hnext : next u = ⟨.ok more, w⟩) :
    first.andThen next = ⟨.ok (ds ++ more), w⟩ := by
  rw [hfirst, andThen_of_ok rfl, hnext]
  rfl

/-- A walk that fails does not go on. -/
theorem Outcome.andThen_of_eq_error {first : Outcome} {next : Visited → Outcome} {f : Failure}
    {w : Visited} (h : first = ⟨.error f, w⟩) : first.andThen next = ⟨.error f, w⟩ := by
  rw [h, andThen_of_error rfl]

theorem Outcome.andThen_of_ok_of_error {first : Outcome} {next : Visited → Outcome}
    {ds : List Declared} {f : Failure} {u w : Visited} (hfirst : first = ⟨.ok ds, u⟩)
    (hnext : next u = ⟨.error f, w⟩) : first.andThen next = ⟨.error f, w⟩ := by
  rw [hfirst, andThen_of_ok rfl, hnext]
  rfl

theorem Walk.visitAll_singleton (visit : Child → Visited → Outcome) (c : Child) (v : Visited) :
    visitAll visit [c] v = visit c v := by
  show (visit c v).andThen (visitAll visit []) = visit c v
  obtain ⟨result, w⟩ := visit c v
  cases result with
  | error f => exact Outcome.andThen_of_error rfl
  | ok ds => simp [Outcome.andThen, visitAll, Except.map]

/-- A plan whose three parts return is carried out to its end. -/
theorem Walk.walkUpTo_of_parts {g : Graph} {o : Options} {p : Pass} {depth : Nat} {c : Child}
    {v u w : Visited} {ds own ds' : List Declared} {id : NodeId} {n : Node} {plan : Plan}
    (hitem : g.item c = .node id n) (hnew : v.holds id n = false) (hplan : p.plan n = some plan)
    (hbefore : visitAll (walkUpTo g o p depth) plan.before (v.insert id n) = ⟨.ok ds, u⟩)
    (hown : OwnDeclaration g o id n plan.declares own)
    (hafter : visitAll (walkUpTo g o p depth) plan.after u = ⟨.ok ds', w⟩) :
    walkUpTo g o p (depth + 1) c v = ⟨.ok (ds ++ own ++ ds'), w⟩ := by
  rw [walkUpTo_of_plan_eq_some hitem hnew hplan]
  exact Outcome.andThen_of_eq_ok (Outcome.andThen_of_eq_ok hbefore (hown.declareIf_eq u)) hafter

namespace Visits

variable {g : Graph} {o : Options} {p : Pass} {cs : List Child} {v w : Visited}
  {ds : List Declared}

theorem fresh_le (h : Visits g o p cs v ds w) :
    (g.fresh w).card ≤ (g.fresh v).card := by
  obtain ⟨ids, htrail, -⟩ := h.trail
  exact Graph.fresh_le htrail

theorem visitAll_eq {depth : Nat} (h : Visits g o p cs v ds w)
    (hdepth : (g.fresh v).card < depth) :
    Walk.visitAll (Walk.walkUpTo g o p depth) cs v = ⟨.ok ds, w⟩ := by
  induction h generalizing depth with
  | nil => rfl
  | passed hitem hheld _ ih =>
      obtain ⟨depth, rfl⟩ : ∃ k, depth = k + 1 := ⟨depth - 1, by omega⟩
      exact Outcome.andThen_of_eq_ok (Walk.walkUpTo_of_holds hitem hheld) (ih hdepth)
  | @entered c cs v v₁ v₂ w ds₁ own ds₂ ds id n plan hitem hnew hplan hb hown ha hr ihb iha ihr =>
      obtain ⟨depth, rfl⟩ : ∃ k, depth = k + 1 := ⟨depth - 1, by omega⟩
      have hless := Graph.fresh_insert_lt (Graph.get?_of_item hitem) hnew
      have hleft₁ := hb.fresh_le
      have hleft₂ := ha.fresh_le
      have hbefore : Walk.visitAll (Walk.walkUpTo g o p depth) plan.before (v.insert id n) =
          ⟨.ok ds₁, v₁⟩ := ihb (by omega)
      have hafter : Walk.visitAll (Walk.walkUpTo g o p depth) plan.after v₁ = ⟨.ok ds₂, v₂⟩ :=
        iha (by omega)
      have hrest : Walk.visitAll (Walk.walkUpTo g o p (depth + 1)) cs v₂ = ⟨.ok ds, w⟩ :=
        ihr (by omega)
      exact Outcome.andThen_of_eq_ok
        (Walk.walkUpTo_of_parts hitem hnew hplan hbefore hown hafter) hrest

/-- A pass that visits one child and comes to its end is a walk that returns. -/
theorem walk_eq {c : Child} (h : Visits g o p [c] v ds w) : Walk.walk g o p c v = ⟨.ok ds, w⟩ := by
  have hall := h.visitAll_eq (Nat.lt_succ_of_le (g.fresh_le_size v))
  rwa [Walk.visitAll_singleton] at hall

/-- What such a pass writes is determined. -/
theorem unique {c : Child} {ds' : List Declared} {w' : Visited} (h : Visits g o p [c] v ds w)
    (h' : Visits g o p [c] v ds' w') : ds = ds' ∧ w = w' := by
  obtain ⟨hds, hw⟩ := Outcome.mk.inj (h.walk_eq.symm.trans h'.walk_eq)
  exact ⟨Except.ok.inj hds, hw⟩

end Visits

/-! ## Files that are returned -/

/-- Nothing stands in the way of a file for the root: it is a node with a name,
and the passes admit all that they can come to. -/
def Graph.Admits (g : Graph) (o : Options) (root : Child) : Prop :=
  ∃ name, rootName g root = .ok name ∧
    ∀ (which : Section) id, which.Reaches g root id →
      (Pass.ofSection o (some name) which).Admits g o id

section

variable {g : Graph} {o : Options} {root : Child} {m : Memo}

/-- A root must be a node with a name. -/
theorem rootName_eq_ok_iff {name : String} :
    rootName g root = .ok name ↔ ∃ id n, g.item root = .node id n ∧ n.name = some name := by
  unfold rootName
  cases g.item root with
  | value x => simp
  | node id n => cases hname : n.name <;> simp [hname]

theorem hasNode_of_rootName {name : String} (h : rootName g root = .ok name) : g.HasNode root := by
  obtain ⟨id, n, hitem, -⟩ := rootName_eq_ok_iff.mp h
  exact ⟨id, n, hitem⟩

/-- A run returns if each of its passes comes to its end. -/
theorem runPasses_of_visits {name : String} {d : Declarations} {m' : Memo}
    (hname : rootName g root = .ok name)
    (h : ∀ which, Visits g o (Pass.ofSection o (some name) which) [root] (m.get which)
      (d.get which) (m'.get which)) : runPasses g o root m = ⟨.ok d, m'⟩ := by
  have hsection : ∀ which m₁, m₁.get which = m.get which →
      runSection g o (some name) which root m₁ =
        ⟨.ok (d.get which), m₁.set which (m'.get which)⟩ := by
    intro which m₁ hsame
    unfold runSection
    rw [hsame, (h which).walk_eq]
  unfold runPasses
  simp only [hname, Run.andThen, hsection .types m rfl]
  rw [hsection .interfaces _ (Memo.get_set_of_ne _ _ (by decide))]
  simp only
  rw [hsection .enums _ ((Memo.get_set_of_ne _ _ (by decide)).trans
    (Memo.get_set_of_ne _ _ (by decide)))]
  rfl

/-- Passes that all come to their ends make up a run. -/
theorem exists_run_of_visits {name : String} (hname : rootName g root = .ok name)
    (h : ∀ which, ∃ ds w, Visits g o (Pass.ofSection o (some name) which) [root] (m.get which) ds w) :
    ∃ d, (runPasses g o root m).result = .ok d := by
  choose ds w hvisits using h
  have hrun : runPasses g o root m = ⟨.ok ⟨ds .types, ds .interfaces, ds .enums⟩,
      ⟨w .types, w .interfaces, w .enums⟩⟩ := by
    apply runPasses_of_visits hname
    intro which
    cases which <;> exact hvisits _
  exact ⟨_, congrArg Run.result hrun⟩

theorem generate_of_run {d : Declarations} {banner : String}
    (hrun : (runPasses g o root m).result = .ok d) (hbanner : bannerText o = .ok banner) :
    (generate g o root m).result = .ok (fileText banner d.texts) := by
  unfold generate
  rw [Run.andThen_of_ok hrun, hbanner]
  rfl

/-- Where nothing stands in the way of it, the file is returned, whatever has
been visited before. -/
theorem generate_returns {banner : String} (h : g.Admits o root) (hbanner : bannerText o = .ok banner)
    (m : Memo) : ∃ text, (generate g o root m).result = .ok text := by
  obtain ⟨name, hname, hadmits⟩ := h
  have hvisits : ∀ which, ∃ ds w,
      Visits g o (Pass.ofSection o (some name) which) [root] (m.get which) ds w := by
    intro which
    have hreturns : (Walk.walk g o (Pass.ofSection o (some name) which) root
        (m.get which)).Returns := by
      apply Walk.walk_returns (hasNode_of_rootName hname)
      intro id hid
      exact hadmits which id (hid.mono fun _ _ hnext => (Pass.mem_edges_iff o _).mp hnext)
    obtain ⟨ds, hds⟩ := hreturns
    exact ⟨ds, (Walk.walk g o _ root (m.get which)).visited, visits_of_walk (by rw [← hds])⟩
  obtain ⟨d, hrun⟩ := exists_run_of_visits hname hvisits
  exact ⟨_, generate_of_run hrun hbanner⟩

end

end SchemaDecls
