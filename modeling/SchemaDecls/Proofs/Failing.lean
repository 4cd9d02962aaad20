import SchemaDecls.Proofs.Expansion
import SchemaDecls.Proofs.Success

/-!
# Walks that fail

`Fails g o p cs v f w` is the counterpart of `Visits`: a pass that visits the children
`cs` one after another from `v` on fails with `f`, and `w` is what it has visited by
then.  Each rule is one of the places at which it can fail.  Whatever was visited
before that place has come to its end, and is described by `Visits`.

There is no rule for a walk that is too deep, since no walk fails for that as long as
its depth is larger than the number of nodes that are left
(`Walk.fails_of_walkUpTo`; the other way round, `Fails.walk_eq`).  So a pass fails for a
child that it does not go into, or for the declaration of a node that it has added
(`Fails.cause`).  A pass that declares a node before it goes on to its children fails at
the first node that it cannot declare (`Fails.declared`).

A run of the three passes fails in one of them, and then the passes before it have
come to their ends and those behind it have not begun (`runPasses_eq_error`).
-/

namespace SchemaDecls

/-- A pass visits children one after another and fails. -/
inductive Fails (g : Graph) (o : Options) (p : Pass) :
    List Child → Visited → Failure → Visited → Prop
  /-- The first child comes to its end, and one of the others fails. -/
  | later {c : Child} {cs : List Child} {v u w : Visited} {ds : List Declared} {f : Failure}
      (hfirst : Visits g o p [c] v ds u) (hrest : Fails g o p cs u f w) :
      Fails g o p (c :: cs) v f w
  /-- The first child is no node. -/
  | value {c : Child} {cs : List Child} {v : Visited} {x : Value} (hitem : g.item c = .value x) :
      Fails g o p (c :: cs) v (.unsupported (.value x)) v
  /-- A node is added for which there is no plan. -/
  | refused {c : Child} {cs : List Child} {v : Visited} {id : NodeId} {n : Node}
      (hitem : g.item c = .node id n) (hnew : v.holds id n = false) (hplan : p.plan n = none) :
      Fails g o p (c :: cs) v (.unsupported n.offender) (v.insert id n)
  /-- A node is added, and its plan fails before it is declared, -/
  | before {c : Child} {cs : List Child} {v w : Visited} {f : Failure} {id : NodeId} {n : Node}
      {plan : Plan} (hitem : g.item c = .node id n) (hnew : v.holds id n = false)
      (hplan : p.plan n = some plan) (hbefore : Fails g o p plan.before (v.insert id n) f w) :
      Fails g o p (c :: cs) v f w
  /-- or because it cannot be declared, -/
  | own {c : Child} {cs : List Child} {v w : Visited} {ds : List Declared} {f : Failure}
      {id : NodeId} {n : Node} {plan : Plan} (hitem : g.item c = .node id n)
      (hnew : v.holds id n = false) (hplan : p.plan n = some plan)
      (hbefore : Visits g o p plan.before (v.insert id n) ds w) (hdeclares : plan.declares = true)
      (hown : Declaration.ofNode g o n = .error f) : Fails g o p (c :: cs) v f w
  /-- or afterwards. -/
  | after {c : Child} {cs : List Child} {v u w : Visited} {ds own : List Declared} {f : Failure}
      {id : NodeId} {n : Node} {plan : Plan} (hitem : g.item c = .node id n)
      (hnew : v.holds id n = false) (hplan : p.plan n = some plan)
      (hbefore : Visits g o p plan.before (v.insert id n) ds u)
      (hown : OwnDeclaration g o id n plan.declares own)
      (hafter : Fails g o p plan.after u f w) : Fails g o p (c :: cs) v f w

/-! ## Walks as they fail -/

/-- Two walks in a row fail if the first does, or the second after the first. -/
theorem Outcome.andThen_eq_error {first : Outcome} {next : Visited → Outcome} {f : Failure}
    {w : Visited} (h : first.andThen next = ⟨.error f, w⟩) :
    first = ⟨.error f, w⟩ ∨ ∃ ds u, first = ⟨.ok ds, u⟩ ∧ next u = ⟨.error f, w⟩ := by
  obtain ⟨result, u⟩ := first
  cases result with
  | error e =>
      rw [Outcome.andThen_of_error rfl] at h
      exact .inl h
  | ok ds =>
      rw [Outcome.andThen_of_ok rfl] at h
      obtain ⟨hresult, hw⟩ := Outcome.mk.inj h
      refine .inr ⟨ds, u, rfl, ?_⟩
      have hnext : (next u).result = .error f := map_eq_error hresult
      rw [← hnext, ← hw]

theorem declareIf_eq_error {g : Graph} {o : Options} {id : NodeId} {n : Node} {declares : Bool}
    {v w : Visited} {f : Failure} (h : Walk.declareIf declares g o id n v = ⟨.error f, w⟩) :
    declares = true ∧ Declaration.ofNode g o n = .error f ∧ w = v := by
  unfold Walk.declareIf at h
  cases declares with
  | false => simp at h
  | true =>
      obtain ⟨hresult, hv⟩ := Outcome.mk.inj h
      exact ⟨rfl, map_eq_error hresult, hv.symm⟩

theorem declareIf_of_eq_error {g : Graph} {o : Options} {id : NodeId} {n : Node} {declares : Bool}
    {f : Failure} (hdeclares : declares = true) (h : Declaration.ofNode g o n = .error f)
    (v : Visited) : Walk.declareIf declares g o id n v = ⟨.error f, v⟩ := by
  rw [hdeclares, Walk.declareIf, if_pos rfl, h]
  rfl

section

variable {g : Graph} {o : Options} {p : Pass} {cs : List Child} {v w : Visited} {f : Failure}

/-- What comes behind a child that fails is not looked at. -/
theorem Fails.append (h : Fails g o p cs v f w) (more : List Child) :
    Fails g o p (cs ++ more) v f w := by
  induction h with
  | later hfirst _ ih => exact .later hfirst ih
  | value hitem => exact .value hitem
  | refused hitem hnew hplan => exact .refused hitem hnew hplan
  | before hitem hnew hplan hbefore _ => exact .before hitem hnew hplan hbefore
  | own hitem hnew hplan hbefore hdeclares hown =>
      exact .own hitem hnew hplan hbefore hdeclares hown
  | after hitem hnew hplan hbefore hown hafter _ =>
      exact .after hitem hnew hplan hbefore hown hafter

namespace Walk

private theorem fails_of_visitAll {visit : Child → Visited → Outcome} {left : Nat}
    (hgrow : ∀ c u, ∃ ids, Entered g u ids (visit c u).visited)
    (hvisits : ∀ c u ds w, visit c u = ⟨.ok ds, w⟩ → Visits g o p [c] u ds w)
    (hfails : ∀ c u f w, (g.fresh u).card ≤ left → visit c u = ⟨.error f, w⟩ →
      Fails g o p [c] u f w)
    (hv : (g.fresh v).card ≤ left) (h : visitAll visit cs v = ⟨.error f, w⟩) :
    Fails g o p cs v f w := by
  induction cs generalizing v with
  | nil => simp [visitAll] at h
  | cons c rest ih =>
      unfold visitAll at h
      rcases Outcome.andThen_eq_error h with hfirst | ⟨ds, u, hfirst, hrest⟩
      · exact (hfails c v f w hv hfirst).append rest
      · obtain ⟨ids, htrail⟩ := hgrow c v
        rw [hfirst] at htrail
        have hu := Nat.le_trans (Graph.fresh_le htrail) hv
        exact .later (hvisits c v ds u hfirst) (ih hu hrest)

/-- A walk that fails with depth left is described by `Fails`. -/
theorem fails_of_walkUpTo {depth : Nat} {c : Child} (hdepth : (g.fresh v).card < depth)
    (h : walkUpTo g o p depth c v = ⟨.error f, w⟩) : Fails g o p [c] v f w := by
  induction depth generalizing c v f w with
  | zero => omega
  | succ depth ih =>
      cases hitem : g.item c with
      | value x =>
          rw [walkUpTo_of_value hitem] at h
          obtain ⟨hresult, rfl⟩ := Outcome.mk.inj h
          obtain rfl := Except.error.inj hresult
          exact .value hitem
      | node id n =>
          cases hheld : v.holds id n with
          | true =>
              rw [walkUpTo_of_holds hitem hheld] at h
              simp at h
          | false =>
              cases hplan : p.plan n with
              | none =>
                  rw [walkUpTo_of_plan_eq_none hitem hheld hplan] at h
                  obtain ⟨hresult, rfl⟩ := Outcome.mk.inj h
                  obtain rfl := Except.error.inj hresult
                  exact .refused hitem hheld hplan
              | some plan =>
                  rw [walkUpTo_of_plan_eq_some hitem hheld hplan] at h
                  have hn := Graph.get?_of_item hitem
                  have hless := Graph.fresh_insert_lt hn hheld
                  have hgrow := walkUpTo_grows g o p depth
                  have hvisits := visits_of_walkUpTo (g := g) (o := o) (p := p) depth
                  have hfails : ∀ c u f w, (g.fresh u).card ≤
                      (g.fresh (v.insert id n)).card →
                      walkUpTo g o p depth c u = ⟨.error f, w⟩ → Fails g o p [c] u f w := by
                    intro c u f w hu hends
                    exact ih (by omega) hends
                  unfold follow at h
                  rcases Outcome.andThen_eq_error h with hfirst | ⟨ds, u, hfirst, hafter⟩
                  · rcases Outcome.andThen_eq_error hfirst with hbefore | ⟨ds, u, hbefore, hown⟩
                    · exact .before hitem hheld hplan
                        (fails_of_visitAll hgrow hvisits hfails (Nat.le_refl _) hbefore)
                    · obtain ⟨hdeclares, htext, rfl⟩ := declareIf_eq_error hown
                      exact .own hitem hheld hplan (visits_of_visitAll hvisits _ _ _ _ hbefore)
                        hdeclares htext
                  · obtain ⟨ds₁, u₁, own, hbefore, hself, -⟩ := Outcome.andThen_eq_ok hfirst
                    obtain ⟨hown, rfl⟩ := ownDeclaration_of_declareIf hself
                    have hbefore := visits_of_visitAll hvisits _ _ _ _ hbefore
                    obtain ⟨ids, htrail, -⟩ := hbefore.trail
                    have hleft := Graph.fresh_le htrail
                    exact .after hitem hheld hplan hbefore hown
                      (fails_of_visitAll hgrow hvisits hfails hleft hafter)

/-- A walk that fails is described by `Fails`. -/
theorem fails_of_walk {c : Child} (h : walk g o p c v = ⟨.error f, w⟩) : Fails g o p [c] v f w :=
  fails_of_walkUpTo (Nat.lt_succ_of_le (g.fresh_le_size v)) h

variable {depth : Nat} {c : Child} {id : NodeId} {n : Node} {plan : Plan} {u : Visited}
  {ds own : List Declared}

/-- Conversely a plan that fails in one of its parts ends the walk: before the node is
declared, -/
theorem walkUpTo_of_before_eq_error (hitem : g.item c = .node id n)
    (hnew : v.holds id n = false) (hplan : p.plan n = some plan)
    (hbefore : visitAll (walkUpTo g o p depth) plan.before (v.insert id n) = ⟨.error f, w⟩) :
    walkUpTo g o p (depth + 1) c v = ⟨.error f, w⟩ := by
  rw [walkUpTo_of_plan_eq_some hitem hnew hplan]
  exact Outcome.andThen_of_eq_error (Outcome.andThen_of_eq_error hbefore)

/-- with its declaration, -/
theorem walkUpTo_of_own_eq_error (hitem : g.item c = .node id n)
    (hnew : v.holds id n = false) (hplan : p.plan n = some plan)
    (hbefore : visitAll (walkUpTo g o p depth) plan.before (v.insert id n) = ⟨.ok ds, w⟩)
    (hdeclares : plan.declares = true) (hown : Declaration.ofNode g o n = .error f) :
    walkUpTo g o p (depth + 1) c v = ⟨.error f, w⟩ := by
  rw [walkUpTo_of_plan_eq_some hitem hnew hplan]
  exact Outcome.andThen_of_eq_error
    (Outcome.andThen_of_ok_of_error hbefore (declareIf_of_eq_error hdeclares hown w))

/-- or afterwards. -/
theorem walkUpTo_of_after_eq_error (hitem : g.item c = .node id n)
    (hnew : v.holds id n = false) (hplan : p.plan n = some plan)
    (hbefore : visitAll (walkUpTo g o p depth) plan.before (v.insert id n) = ⟨.ok ds, u⟩)
    (hown : OwnDeclaration g o id n plan.declares own)
    (hafter : visitAll (walkUpTo g o p depth) plan.after u = ⟨.error f, w⟩) :
    walkUpTo g o p (depth + 1) c v = ⟨.error f, w⟩ := by
  rw [walkUpTo_of_plan_eq_some hitem hnew hplan]
  exact Outcome.andThen_of_ok_of_error
    (Outcome.andThen_of_eq_ok hbefore (hown.declareIf_eq u)) hafter

end Walk

/-! ## What a pass fails for -/

namespace Fails

theorem trail (h : Fails g o p cs v f w) : ∃ ids, Entered g v ids w := by
  induction h with
  | later hfirst _ ih =>
      obtain ⟨ids, htrail, -⟩ := hfirst.trail
      obtain ⟨more, htrail'⟩ := ih
      exact ⟨more ++ ids, htrail.trans htrail'⟩
  | value _ => exact ⟨[], .nil⟩
  | refused hitem hnew _ =>
      exact ⟨[_], .single (Graph.get?_of_item hitem) hnew⟩
  | before hitem hnew _ _ ih =>
      obtain ⟨ids, htrail⟩ := ih
      have hfirst := Entered.single (Graph.get?_of_item hitem) hnew
      exact ⟨ids ++ [_], hfirst.trans htrail⟩
  | own hitem hnew _ hbefore _ _ =>
      obtain ⟨ids, htrail, -⟩ := hbefore.trail
      have hfirst := Entered.single (Graph.get?_of_item hitem) hnew
      exact ⟨ids ++ [_], hfirst.trans htrail⟩
  | after hitem hnew _ hbefore _ _ ih =>
      obtain ⟨ids, htrail, -⟩ := hbefore.trail
      obtain ⟨more, htrail'⟩ := ih
      have hfirst := Entered.single (Graph.get?_of_item hitem) hnew
      exact ⟨more ++ (ids ++ [_]), (hfirst.trans htrail).trans htrail'⟩

/-- A pass fails for something that it does not go into, or for the declaration of a
node that it has added. -/
theorem cause (h : Fails g o p cs v f w) :
    (∃ offender, f = .unsupported offender) ∨
      ∃ id n, id ∈ w.ids ∧ id ∉ v.ids ∧ g.get? id = some n ∧ p.declares n = true ∧
        Declaration.ofNode g o n = .error f := by
  induction h with
  | later hfirst _ ih =>
      rcases ih with hoffends | ⟨id, n, hw, hu, hcause⟩
      · exact .inl hoffends
      · obtain ⟨ids, htrail, -⟩ := hfirst.trail
        exact .inr ⟨id, n, hw, fun hv => hu (htrail.mem_ids hv), hcause⟩
  | value _ => exact .inl ⟨_, rfl⟩
  | refused _ _ _ => exact .inl ⟨_, rfl⟩
  | before _ _ _ _ ih =>
      rcases ih with hoffends | ⟨id, n, hw, hu, hcause⟩
      · exact .inl hoffends
      · exact .inr ⟨id, n, hw, fun hv => hu (Visited.mem_ids_insert.mpr (.inr hv)), hcause⟩
  | own hitem hnew hplan hbefore hdeclares hown =>
      obtain ⟨ids, htrail, -⟩ := hbefore.trail
      have hw := htrail.mem_ids (Visited.mem_ids_insert.mpr (.inl rfl))
      exact .inr ⟨_, _, hw, Visited.not_mem_ids_of_holds_eq_false hnew,
        Graph.get?_of_item hitem, by simp [Pass.declares, hplan, hdeclares], hown⟩
  | after _ _ _ hbefore _ _ ih =>
      rcases ih with hoffends | ⟨id, n, hw, hu, hcause⟩
      · exact .inl hoffends
      · obtain ⟨ids, htrail, -⟩ := hbefore.trail
        refine .inr ⟨id, n, hw, ?_, hcause⟩
        intro hv
        exact hu (htrail.mem_ids (Visited.mem_ids_insert.mpr (.inr hv)))

/-- The walk to any depth that is large enough fails in this way. -/
theorem visitAll_eq {depth : Nat} (h : Fails g o p cs v f w)
    (hdepth : (g.fresh v).card < depth) :
    Walk.visitAll (Walk.walkUpTo g o p depth) cs v = ⟨.error f, w⟩ := by
  induction h generalizing depth with
  | later hfirst _ ih =>
      have hc := hfirst.visitAll_eq hdepth
      rw [Walk.visitAll_singleton] at hc
      have hleft := hfirst.fresh_le
      exact Outcome.andThen_of_ok_of_error hc (ih (by omega))
  | value hitem =>
      obtain ⟨depth, rfl⟩ : ∃ k, depth = k + 1 := ⟨depth - 1, by omega⟩
      exact Outcome.andThen_of_eq_error (Walk.walkUpTo_of_value hitem)
  | refused hitem hnew hplan =>
      obtain ⟨depth, rfl⟩ : ∃ k, depth = k + 1 := ⟨depth - 1, by omega⟩
      exact Outcome.andThen_of_eq_error (Walk.walkUpTo_of_plan_eq_none hitem hnew hplan)
  | before hitem hnew hplan _ ih =>
      obtain ⟨depth, rfl⟩ : ∃ k, depth = k + 1 := ⟨depth - 1, by omega⟩
      have hless := Graph.fresh_insert_lt (Graph.get?_of_item hitem) hnew
      exact Outcome.andThen_of_eq_error
        (Walk.walkUpTo_of_before_eq_error hitem hnew hplan (ih (by omega)))
  | own hitem hnew hplan hbefore hdeclares hown =>
      obtain ⟨depth, rfl⟩ : ∃ k, depth = k + 1 := ⟨depth - 1, by omega⟩
      have hless := Graph.fresh_insert_lt (Graph.get?_of_item hitem) hnew
      exact Outcome.andThen_of_eq_error
        (Walk.walkUpTo_of_own_eq_error hitem hnew hplan (hbefore.visitAll_eq (by omega))
          hdeclares hown)
  | after hitem hnew hplan hbefore hown _ ih =>
      obtain ⟨depth, rfl⟩ : ∃ k, depth = k + 1 := ⟨depth - 1, by omega⟩
      have hless := Graph.fresh_insert_lt (Graph.get?_of_item hitem) hnew
      have hleft := hbefore.fresh_le
      exact Outcome.andThen_of_eq_error
        (Walk.walkUpTo_of_after_eq_error hitem hnew hplan (hbefore.visitAll_eq (by omega)) hown
          (ih (by omega)))

/-- A pass that visits one child and fails is a walk that fails. -/
theorem walk_eq {c : Child} (h : Fails g o p [c] v f w) :
    Walk.walk g o p c v = ⟨.error f, w⟩ := by
  have hall := h.visitAll_eq (Nat.lt_succ_of_le (g.fresh_le_size v))
  rwa [Walk.visitAll_singleton] at hall

end Fails

/-- The declaration of a node that a pass has added and declares was written, if the
pass has come to its end. -/
theorem Visits.exists_text {ds : List Declared} (h : Visits g o p cs v ds w) {id : NodeId}
    {n : Node} (hw : id ∈ w.ids) (hv : id ∉ v.ids) (hn : g.get? id = some n)
    (hdeclares : p.declares n = true) : ∃ text, Declaration.ofNode g o n = .ok text := by
  obtain ⟨m, plan, hm, hplan, htext, -⟩ := h.admits hw hv
  rw [hn] at hm
  obtain rfl := Option.some.inj hm
  simp only [Pass.declares, hplan, Option.any_some] at hdeclares
  exact htext hdeclares

/-- A pass that declares nodes before their children fails at once where it cannot
declare a node. -/
theorem Fails.declared (hfirst : ∀ n plan, p.plan n = some plan → plan.before = [])
    (h : Fails g o p cs v f w) {id : NodeId} {n : Node} (hw : id ∈ w.ids) (hv : id ∉ v.ids)
    (hn : g.get? id = some n) (hdeclares : p.declares n = true) :
    (∃ text, Declaration.ofNode g o n = .ok text) ∨ Declaration.ofNode g o n = .error f := by
  induction h with
  | @later c cs v u w ds f hvisits _ ih =>
      by_cases hu : id ∈ u.ids
      · exact .inl (hvisits.exists_text hu hv hn hdeclares)
      · exact ih hw hu
  | value _ => contradiction
  | refused hitem _ hplan =>
      obtain rfl := (Visited.mem_ids_insert.mp hw).resolve_right hv
      obtain rfl := Option.some.inj (hn.symm.trans (Graph.get?_of_item hitem))
      simp [Pass.declares, hplan] at hdeclares
  | before _ _ hplan hbefore _ =>
      rw [hfirst _ _ hplan] at hbefore
      cases hbefore
  | @own c cs v w ds f id' n' plan hitem _ _ hbefore _ hown =>
      by_cases hself : id ∈ (v.insert id' n').ids
      · obtain rfl := (Visited.mem_ids_insert.mp hself).resolve_right hv
        obtain rfl := Option.some.inj (hn.symm.trans (Graph.get?_of_item hitem))
        exact .inr hown
      · exact .inl (hbefore.exists_text hw hself hn hdeclares)
  | @after c cs v u w ds own f id' n' plan hitem _ hplan hbefore hown _ ih =>
      by_cases hu : id ∈ u.ids
      · by_cases hself : id ∈ (v.insert id' n').ids
        · obtain rfl := (Visited.mem_ids_insert.mp hself).resolve_right hv
          obtain rfl := Option.some.inj (hn.symm.trans (Graph.get?_of_item hitem))
          simp only [Pass.declares, hplan, Option.any_some] at hdeclares
          rw [hdeclares] at hown
          cases hown with
          | declared htext => exact .inl ⟨_, htext⟩
        · exact .inl (hbefore.exists_text hu hself hn hdeclares)
      · exact ih hw hu

end

/-! ## Runs that fail -/

/-- The place of a section in a file. -/
def Section.place : Section → Nat
  | .types => 0
  | .interfaces => 1
  | .enums => 2

theorem Section.place_inj {which other : Section} (h : which.place = other.place) :
    which = other := by
  cases which <;> cases other <;> simp [place] at h ⊢

/-- The run leads from `m` to `m'` and fails in the pass of this section.  The passes
before have come to their ends, and those behind have not begun. -/
structure Section.FailsIn (which : Section) (g : Graph) (o : Options) (rootText : String)
    (root : Child) (m : Memo) (f : Failure) (m' : Memo) : Prop where
  earlier : ∀ other : Section, other.place < which.place →
    ∃ ds, Visits g o (Pass.ofSection o (some rootText) other) [root] (m.get other) ds
      (m'.get other)
  fails : Fails g o (Pass.ofSection o (some rootText) which) [root] (m.get which) f (m'.get which)
  later : ∀ other : Section, which.place < other.place → m'.get other = m.get other

theorem Run.andThen_eq_error {α β : Type} {first : Run α} {next : α → Memo → Run β} {f : Failure}
    (h : (first.andThen next).result = .error f) :
    (first.result = .error f ∧ (first.andThen next).memo = first.memo) ∨
      ∃ a, first.result = .ok a ∧ (next a first.memo).result = .error f ∧
        (first.andThen next).memo = (next a first.memo).memo := by
  unfold Run.andThen at h ⊢
  cases hfirst : first.result with
  | error e =>
      rw [hfirst] at h
      obtain rfl : e = f := Except.error.inj h
      exact .inl ⟨rfl, rfl⟩
  | ok a =>
      rw [hfirst] at h
      exact .inr ⟨a, rfl, h, rfl⟩

section

variable {g : Graph} {o : Options} {root : Child} {m : Memo} {f : Failure}

theorem runSection_eq_error {name : Option String} {which : Section}
    (h : (runSection g o name which root m).result = .error f) :
    Fails g o (Pass.ofSection o name which) [root] (m.get which) f
      ((runSection g o name which root m).memo.get which) := by
  apply Walk.fails_of_walk
  unfold runSection at h ⊢
  rw [Memo.get_set_self, ← h]

/-- The turn of a section in a run that started from `m`.  The passes before have come to
their ends, and the others have not begun. -/
structure Section.HasTurn (which : Section) (g : Graph) (o : Options) (rootText : String)
    (root : Child) (m m' : Memo) : Prop where
  earlier : ∀ other : Section, other.place < which.place →
    ∃ ds, Visits g o (Pass.ofSection o (some rootText) other) [root] (m.get other) ds
      (m'.get other)
  later : ∀ other : Section, which.place ≤ other.place → m'.get other = m.get other

namespace Section.HasTurn

variable {rootText : String} {which following : Section} {m' : Memo}

theorem first : Section.types.HasTurn g o rootText root m m :=
  ⟨fun _ hplace => absurd hplace (Nat.not_lt_zero _), fun _ _ => rfl⟩

/-- Once a pass has come to its end, it is the turn of the next. -/
theorem next (h : which.HasTurn g o rootText root m m') (hnext : following.place = which.place + 1)
    {ds : List Declared}
    (hends : (runSection g o (some rootText) which root m').result = .ok ds) :
    following.HasTurn g o rootText root m (runSection g o (some rootText) which root m').memo := by
  constructor
  · intro other hplace
    by_cases hsame : other = which
    · subst hsame
      have hvisits := visits_of_walk (runSection_eq_ok hends)
      rw [h.later _ (Nat.le_refl _)] at hvisits
      exact ⟨ds, hvisits⟩
    · have hearlier : other.place < which.place :=
        Nat.lt_of_le_of_ne (by omega) fun heq => hsame (place_inj heq)
      rw [runSection_get_of_ne hsame]
      exact h.earlier other hearlier
  · intro other hplace
    have hne : other ≠ which := by
      rintro rfl
      omega
    rw [runSection_get_of_ne hne]
    exact h.later other (by omega)

/-- A pass that fails leaves the others as they are. -/
theorem failsIn (h : which.HasTurn g o rootText root m m')
    (hends : (runSection g o (some rootText) which root m').result = .error f) :
    which.FailsIn g o rootText root m f (runSection g o (some rootText) which root m').memo := by
  refine ⟨?_, ?_, ?_⟩
  · intro other hplace
    have hne : other ≠ which := by
      rintro rfl
      exact Nat.lt_irrefl _ hplace
    rw [runSection_get_of_ne hne]
    exact h.earlier other hplace
  · have hfails := runSection_eq_error hends
    rwa [h.later _ (Nat.le_refl _)] at hfails
  · intro other hplace
    have hne : other ≠ which := by
      rintro rfl
      exact Nat.lt_irrefl _ hplace
    rw [runSection_get_of_ne hne]
    exact h.later other (Nat.le_of_lt hplace)

end Section.HasTurn

/-- A run fails because its root is no node with a name, or in one of the passes. -/
theorem runPasses_eq_error (h : (runPasses g o root m).result = .error f) :
    (rootName g root = .error f ∧ (runPasses g o root m).memo = m) ∨
      ∃ rootText which, rootName g root = .ok rootText ∧
        Section.FailsIn which g o rootText root m f (runPasses g o root m).memo := by
  unfold runPasses at h ⊢
  cases hname : rootName g root with
  | error e =>
      rw [hname] at h
      obtain rfl : e = f := Except.error.inj h
      exact .inl ⟨rfl, rfl⟩
  | ok rootText =>
      simp only [hname] at h ⊢
      have hfirst : Section.types.HasTurn g o rootText root m m := .first
      refine .inr ⟨rootText, ?_⟩
      rcases Run.andThen_eq_error h with ⟨hends, hm⟩ | ⟨types, htypes, h, hm⟩
      · rw [hm]
        exact ⟨.types, rfl, hfirst.failsIn hends⟩
      have hsecond : Section.interfaces.HasTurn g o rootText root m _ := hfirst.next rfl htypes
      rw [hm]
      rcases Run.andThen_eq_error h with ⟨hends, hm⟩ | ⟨interfaces, hinterfaces, h, hm⟩
      · rw [hm]
        exact ⟨.interfaces, rfl, hsecond.failsIn hends⟩
      have hthird : Section.enums.HasTurn g o rootText root m _ := hsecond.next rfl hinterfaces
      rw [hm]
      rcases Run.andThen_eq_error h with ⟨hends, hm⟩ | ⟨enums, -, h, -⟩
      · rw [hm]
        exact ⟨.enums, rfl, hthird.failsIn hends⟩
      · contradiction

/-- Where the banner can be written, files fail only with their runs. -/
theorem generate_eq_error {banner : String} (hbanner : bannerText o = .ok banner)
    (h : (generate g o root m).result = .error f) : (runPasses g o root m).result = .error f := by
  rcases Run.andThen_eq_error h with ⟨hends, -⟩ | ⟨d, -, hends, -⟩
  · exact hends
  · rw [hbanner] at hends
    contradiction

end

end SchemaDecls
