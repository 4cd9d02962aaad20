import Mathlib.Data.Finset.Card
import SchemaDecls.Proofs.Exploration

/-!
# How deep a walk goes

A walk goes down only to nodes that do not count as visited, and remembers each
of them before it goes on.  So on the way down the nodes that are left become
fewer with every step (`Graph.fresh_insert_lt`), and a walk never goes deeper than
there are nodes left, by one level more for the child that is looked at last.
Beyond that depth nothing changes (`Walk.walkUpTo_eq_of_lt`): the depth that
`Walk.walk` takes is as good as any that is larger.

A node is left until it counts as visited, which it may do for its name alone.
-/

namespace SchemaDecls

/-- The nodes that do not count as visited. -/
def Graph.fresh (g : Graph) (v : Visited) : Finset NodeId :=
  (Finset.range g.size).filter fun id => (g.get? id).any fun n => !v.holds id n

namespace Graph

variable {g : Graph} {v w : Visited} {ids : List NodeId} {id : NodeId} {n : Node}

theorem mem_fresh_iff : id ∈ g.fresh v ↔ ∃ n, g.get? id = some n ∧ v.holds id n = false := by
  simp only [fresh, Finset.mem_filter, Finset.mem_range, Option.any_eq_true, Bool.not_eq_true']
  constructor
  · exact fun h => h.2
  · rintro ⟨n, hn, hnew⟩
    exact ⟨lt_size_of_get? hn, n, hn, hnew⟩

/-- Along a trail there is ever less that does not count as visited. -/
theorem fresh_subset (h : Entered g v ids w) : g.fresh w ⊆ g.fresh v := by
  intro other hother
  obtain ⟨m, hm, hnew⟩ := mem_fresh_iff.mp hother
  refine mem_fresh_iff.mpr ⟨m, hm, ?_⟩
  cases hheld : v.holds other m with
  | false => rfl
  | true =>
      rw [h.holds hheld] at hnew
      contradiction

theorem fresh_le (h : Entered g v ids w) : (g.fresh w).card ≤ (g.fresh v).card :=
  Finset.card_le_card (fresh_subset h)

/-- A node that is entered is one less. -/
theorem fresh_insert_lt (hn : g.get? id = some n) (hnew : v.holds id n = false) :
    (g.fresh (v.insert id n)).card < (g.fresh v).card := by
  apply Finset.card_lt_card
  refine ⟨fresh_subset (.single hn hnew), ?_⟩
  intro hsub
  obtain ⟨m, hm, hnot⟩ := mem_fresh_iff.mp (hsub (mem_fresh_iff.mpr ⟨n, hn, hnew⟩))
  obtain rfl := Option.some.inj (hn.symm.trans hm)
  rw [Visited.holds_insert_self] at hnot
  contradiction

theorem fresh_le_size (g : Graph) (v : Visited) : (g.fresh v).card ≤ g.size := by
  calc (g.fresh v).card ≤ (Finset.range g.size).card :=
        Finset.card_le_card (Finset.filter_subset _ _)
    _ = g.size := Finset.card_range g.size

end Graph

/-- What comes after a walk matters only where that walk has come to. -/
theorem Outcome.andThen_congr {first : Outcome} {next next' : Visited → Outcome}
    (h : next first.visited = next' first.visited) :
    first.andThen next = first.andThen next' := by
  unfold Outcome.andThen
  rw [h]

namespace Walk

section

variable {g : Graph} {o : Options} {visit visit' : Child → Visited → Outcome} {left : Nat}

/-- Ways of visiting children that agree as long as no more than so many nodes
are left agree on lists of children as well. -/
private theorem visitAll_congr (hgrow : ∀ c u, ∃ ids, Entered g u ids (visit c u).visited)
    (h : ∀ c u, (g.fresh u).card ≤ left → visit c u = visit' c u) (cs : List Child)
    (v : Visited) (hv : (g.fresh v).card ≤ left) :
    visitAll visit cs v = visitAll visit' cs v := by
  induction cs generalizing v with
  | nil => rfl
  | cons c rest ih =>
      unfold visitAll
      rw [← h c v hv]
      obtain ⟨ids, htrail⟩ := hgrow c v
      exact Outcome.andThen_congr (ih _ (Nat.le_trans (Graph.fresh_le htrail) hv))

theorem visitAll_grows (hgrow : ∀ c u, ∃ ids, Entered g u ids (visit c u).visited)
    (cs : List Child) (v : Visited) : ∃ ids, Entered g v ids (visitAll visit cs v).visited := by
  induction cs generalizing v with
  | nil => exact ⟨[], .nil⟩
  | cons c rest ih =>
      unfold visitAll
      obtain ⟨ids, htrail⟩ := hgrow c v
      cases hends : (visit c v).result with
      | error f =>
          rw [Outcome.andThen_of_error hends]
          exact ⟨ids, htrail⟩
      | ok ds =>
          rw [Outcome.andThen_of_ok hends]
          obtain ⟨more, htrail'⟩ := ih (visit c v).visited
          exact ⟨more ++ ids, htrail.trans htrail'⟩

theorem andThen_declareIf_visited (first : Outcome) (declares : Bool) (id : NodeId)
    (n : Node) : (first.andThen (declareIf declares g o id n)).visited = first.visited := by
  cases hends : first.result with
  | error f => rw [Outcome.andThen_of_error hends]
  | ok ds =>
      rw [Outcome.andThen_of_ok hends]
      cases declares with
      | false => rfl
      | true => rfl

private theorem follow_congr (hgrow : ∀ c u, ∃ ids, Entered g u ids (visit c u).visited)
    (h : ∀ c u, (g.fresh u).card ≤ left → visit c u = visit' c u) (id : NodeId) (n : Node)
    (plan : Plan) (v : Visited) (hv : (g.fresh v).card ≤ left) :
    follow visit g o id n plan v = follow visit' g o id n plan v := by
  unfold follow
  rw [← visitAll_congr hgrow h plan.before v hv]
  obtain ⟨ids, htrail⟩ := visitAll_grows hgrow plan.before v
  apply Outcome.andThen_congr
  rw [andThen_declareIf_visited]
  exact visitAll_congr hgrow h plan.after _ (Nat.le_trans (Graph.fresh_le htrail) hv)

end

variable {g : Graph} {o : Options} {p : Pass} {c : Child} {v : Visited}

theorem walkUpTo_grows (g : Graph) (o : Options) (p : Pass) (depth : Nat) (c : Child)
    (v : Visited) : ∃ ids, Entered g v ids (walkUpTo g o p depth c v).visited := by
  obtain ⟨ids, htrail, -⟩ := explores_walkUpTo g o p depth c v
  exact ⟨ids, htrail⟩

/-- All depths that are larger than the number of nodes that are left are alike. -/
theorem walkUpTo_eq_of_lt {depth depth' : Nat} (h : (g.fresh v).card < depth)
    (h' : (g.fresh v).card < depth') :
    walkUpTo g o p depth c v = walkUpTo g o p depth' c v := by
  induction depth generalizing depth' c v with
  | zero => omega
  | succ depth ih =>
      obtain ⟨depth', rfl⟩ : ∃ k, depth' = k + 1 := ⟨depth' - 1, by omega⟩
      cases hitem : g.item c with
      | value x => rw [walkUpTo_of_value hitem, walkUpTo_of_value hitem]
      | node id n =>
          cases hheld : v.holds id n with
          | true => rw [walkUpTo_of_holds hitem hheld, walkUpTo_of_holds hitem hheld]
          | false =>
              cases hplan : p.plan n with
              | none =>
                  rw [walkUpTo_of_plan_eq_none hitem hheld hplan,
                    walkUpTo_of_plan_eq_none hitem hheld hplan]
              | some plan =>
                  rw [walkUpTo_of_plan_eq_some hitem hheld hplan,
                    walkUpTo_of_plan_eq_some hitem hheld hplan]
                  have hless := Graph.fresh_insert_lt (Graph.get?_of_item hitem) hheld
                  apply follow_congr (walkUpTo_grows g o p depth) _ id n plan _ (Nat.le_refl _)
                  intro c' u hu
                  exact ih (by omega) (by omega)

/-- A walk goes no deeper than there are nodes left. -/
theorem walkUpTo_eq_walk {depth : Nat} (h : (g.fresh v).card < depth) :
    walkUpTo g o p depth c v = walk g o p c v :=
  walkUpTo_eq_of_lt h (Nat.lt_succ_of_le (g.fresh_le_size v))

end Walk

end SchemaDecls
