import SchemaDecls.Proofs.Failing

/-!
# How walks descend

`Descends g o p levels cs v trail out` describes a pass in full that visits the children
`cs` one after another from `v` on, whether it comes to its end or fails: its calls are
nested `levels` deep at most, it enters the nodes of `trail`, the last one first, and it
ends with `out`.  There is a rule for each way in which a walk deals with the next child,
and none for a walk that is cut off.  So a walk that is described by it has come to an
end by itself.

Every walk is, with one level more than there are nodes that do not count as visited
(`Walk.descends_walk`), for a walk goes down only through such nodes, and each of them
counts as visited from then on.  A walk has no other course than that
(`Descends.eq_walk`).  As the trail is one in the sense of `Entered`
(`Descends.trail_entered`), no node is entered twice.
-/

namespace SchemaDecls

theorem Outcome.map_nil_append (out : Outcome) :
    (⟨out.result.map ([] ++ ·), out.visited⟩ : Outcome) = out := by
  obtain ⟨result, v⟩ := out
  cases result <;> rfl

/-! ## Courses of walks -/

/-- A pass visits children one after another, with calls that are nested so many levels
deep at most.  It enters the nodes of the trail, the last one first, and ends with the
outcome. -/
inductive Descends (g : Graph) (o : Options) (p : Pass) :
    Nat → List Child → Visited → List NodeId → Outcome → Prop
  | nil {levels : Nat} {v : Visited} : Descends g o p levels [] v [] ⟨.ok [], v⟩
  /-- A call for a value fails. -/
  | value {levels : Nat} {c : Child} {cs : List Child} {v : Visited} {x : Value}
      (hitem : g.item c = .value x) :
      Descends g o p (levels + 1) (c :: cs) v [] ⟨.error (.unsupported (.value x)), v⟩
  /-- A call for a node that counts as visited returns at once. -/
  | passed {levels : Nat} {c : Child} {cs : List Child} {v : Visited} {trail : List NodeId}
      {out : Outcome} {id : NodeId} {n : Node} (hitem : g.item c = .node id n)
      (hheld : v.holds id n = true) (hrest : Descends g o p (levels + 1) cs v trail out) :
      Descends g o p (levels + 1) (c :: cs) v trail out
  /-- Any other node is entered.  It may have no plan, -/
  | refused {levels : Nat} {c : Child} {cs : List Child} {v : Visited} {id : NodeId} {n : Node}
      (hitem : g.item c = .node id n) (hnew : v.holds id n = false) (hplan : p.plan n = none) :
      Descends g o p (levels + 1) (c :: cs) v [id]
        ⟨.error (.unsupported n.offender), v.insert id n⟩
  /-- or its plan fails before the node is declared, -/
  | before {levels : Nat} {c : Child} {cs : List Child} {v w : Visited} {trail : List NodeId}
      {f : Failure} {id : NodeId} {n : Node} {plan : Plan} (hitem : g.item c = .node id n)
      (hnew : v.holds id n = false) (hplan : p.plan n = some plan)
      (hbefore : Descends g o p levels plan.before (v.insert id n) trail ⟨.error f, w⟩) :
      Descends g o p (levels + 1) (c :: cs) v (trail ++ [id]) ⟨.error f, w⟩
  /-- or because the node cannot be declared, -/
  | own {levels : Nat} {c : Child} {cs : List Child} {v w : Visited} {trail : List NodeId}
      {ds : List Declared} {f : Failure} {id : NodeId} {n : Node} {plan : Plan}
      (hitem : g.item c = .node id n) (hnew : v.holds id n = false) (hplan : p.plan n = some plan)
      (hbefore : Descends g o p levels plan.before (v.insert id n) trail ⟨.ok ds, w⟩)
      (hdeclares : plan.declares = true) (hown : Declaration.ofNode g o n = .error f) :
      Descends g o p (levels + 1) (c :: cs) v (trail ++ [id]) ⟨.error f, w⟩
  /-- or afterwards, -/
  | after {levels : Nat} {c : Child} {cs : List Child} {v u w : Visited}
      {trail trail' : List NodeId} {ds own : List Declared} {f : Failure} {id : NodeId} {n : Node}
      {plan : Plan} (hitem : g.item c = .node id n) (hnew : v.holds id n = false)
      (hplan : p.plan n = some plan)
      (hbefore : Descends g o p levels plan.before (v.insert id n) trail ⟨.ok ds, u⟩)
      (hown : OwnDeclaration g o id n plan.declares own)
      (hafter : Descends g o p levels plan.after u trail' ⟨.error f, w⟩) :
      Descends g o p (levels + 1) (c :: cs) v (trail' ++ (trail ++ [id])) ⟨.error f, w⟩
  /-- or it is carried out to its end, and it is the turn of the next child. -/
  | entered {levels : Nat} {c : Child} {cs : List Child} {v u w : Visited}
      {trail trail' rest : List NodeId} {ds own ds' : List Declared} {out : Outcome} {id : NodeId}
      {n : Node} {plan : Plan} (hitem : g.item c = .node id n) (hnew : v.holds id n = false)
      (hplan : p.plan n = some plan)
      (hbefore : Descends g o p levels plan.before (v.insert id n) trail ⟨.ok ds, u⟩)
      (hown : OwnDeclaration g o id n plan.declares own)
      (hafter : Descends g o p levels plan.after u trail' ⟨.ok ds', w⟩)
      (hrest : Descends g o p (levels + 1) cs w rest out) :
      Descends g o p (levels + 1) (c :: cs) v (rest ++ (trail' ++ (trail ++ [id])))
        ⟨out.result.map (ds ++ own ++ ds' ++ ·), out.visited⟩

section

variable {g : Graph} {o : Options} {p : Pass} {levels : Nat} {cs : List Child} {v : Visited}
  {trail : List NodeId} {out : Outcome}

namespace Descends

/-- Whatever happens, the nodes that are entered make up a trail. -/
theorem trail_entered (h : Descends g o p levels cs v trail out) :
    Entered g v trail out.visited := by
  induction h with
  | nil => exact .nil
  | value _ => exact .nil
  | passed _ _ _ ih => exact ih
  | refused hitem hnew _ => exact .single (Graph.get?_of_item hitem) hnew
  | before hitem hnew _ _ ih =>
      exact (Entered.single (Graph.get?_of_item hitem) hnew).trans ih
  | own hitem hnew _ _ _ _ ih =>
      exact (Entered.single (Graph.get?_of_item hitem) hnew).trans ih
  | after hitem hnew _ _ _ _ ihb iha =>
      exact ((Entered.single (Graph.get?_of_item hitem) hnew).trans ihb).trans iha
  | entered hitem hnew _ _ _ _ _ ihb iha ihr =>
      exact (((Entered.single (Graph.get?_of_item hitem) hnew).trans ihb).trans iha).trans ihr

/-- The walk to any depth that is large enough takes this course. -/
theorem visitAll_eq (h : Descends g o p levels cs v trail out) {depth : Nat}
    (hle : levels ≤ depth) : Walk.visitAll (Walk.walkUpTo g o p depth) cs v = out := by
  induction h generalizing depth with
  | nil => rfl
  | value hitem =>
      obtain ⟨k, rfl⟩ : ∃ k, depth = k + 1 := ⟨depth - 1, by omega⟩
      exact Outcome.andThen_of_eq_error (Walk.walkUpTo_of_value hitem)
  | @passed levels c cs v trail out id n hitem hheld _ ih =>
      obtain ⟨k, rfl⟩ : ∃ k, depth = k + 1 := ⟨depth - 1, by omega⟩
      unfold Walk.visitAll
      rw [Walk.walkUpTo_of_holds hitem hheld, Outcome.andThen_of_ok rfl, ih hle]
      exact Outcome.map_nil_append out
  | refused hitem hnew hplan =>
      obtain ⟨k, rfl⟩ : ∃ k, depth = k + 1 := ⟨depth - 1, by omega⟩
      exact Outcome.andThen_of_eq_error (Walk.walkUpTo_of_plan_eq_none hitem hnew hplan)
  | before hitem hnew hplan _ ih =>
      obtain ⟨k, rfl⟩ : ∃ k, depth = k + 1 := ⟨depth - 1, by omega⟩
      exact Outcome.andThen_of_eq_error
        (Walk.walkUpTo_of_before_eq_error hitem hnew hplan (ih (by omega)))
  | own hitem hnew hplan _ hdeclares hown ih =>
      obtain ⟨k, rfl⟩ : ∃ k, depth = k + 1 := ⟨depth - 1, by omega⟩
      exact Outcome.andThen_of_eq_error
        (Walk.walkUpTo_of_own_eq_error hitem hnew hplan (ih (by omega)) hdeclares hown)
  | after hitem hnew hplan _ hown _ ihb iha =>
      obtain ⟨k, rfl⟩ : ∃ k, depth = k + 1 := ⟨depth - 1, by omega⟩
      exact Outcome.andThen_of_eq_error
        (Walk.walkUpTo_of_after_eq_error hitem hnew hplan (ihb (by omega)) hown
          (iha (by omega)))
  | entered hitem hnew hplan _ hown _ _ ihb iha ihr =>
      obtain ⟨k, rfl⟩ : ∃ k, depth = k + 1 := ⟨depth - 1, by omega⟩
      have hnode := Walk.walkUpTo_of_parts hitem hnew hplan (@ihb k (by omega)) hown
        (iha (by omega))
      unfold Walk.visitAll
      rw [hnode, Outcome.andThen_of_ok rfl, ihr hle]

/-- A walk takes no other course. -/
theorem eq_walk {c : Child} (h : Descends g o p levels [c] v trail out) :
    out = Walk.walk g o p c v := by
  have hleft := g.fresh_le_size v
  have hall := h.visitAll_eq (Nat.le_max_left levels (g.size + 1))
  rw [Walk.visitAll_singleton, Walk.walkUpTo_eq_walk (by omega)] at hall
  exact hall.symm

/-- Nor does it enter other nodes. -/
theorem unique {c : Child} {levels' : Nat} {trail' : List NodeId} {out' : Outcome}
    (h : Descends g o p levels [c] v trail out) (h' : Descends g o p levels' [c] v trail' out') :
    trail = trail' ∧ out = out' := by
  have hout : out = out' := h.eq_walk.trans h'.eq_walk.symm
  have hids : trail ++ v.ids = trail' ++ v.ids := by
    rw [← h.trail_entered.ids_eq, ← h'.trail_entered.ids_eq, hout]
  exact ⟨List.append_cancel_right hids, hout⟩

end Descends

/-- A node that is to be declared is, or it fails. -/
theorem exists_ownDeclaration_or (g : Graph) (o : Options) (id : NodeId) (n : Node)
    (declares : Bool) :
    (∃ own, OwnDeclaration g o id n declares own) ∨
      declares = true ∧ ∃ f, Declaration.ofNode g o n = .error f := by
  cases declares with
  | false => exact .inl ⟨[], .silent⟩
  | true =>
      cases htext : Declaration.ofNode g o n with
      | ok text => exact .inl ⟨[⟨id, text⟩], .declared htext⟩
      | error f => exact .inr ⟨rfl, f, rfl⟩

/-- Every pass has a course, on more levels than there are nodes that do not count as
visited. -/
theorem exists_descends (g : Graph) (o : Options) (p : Pass) (levels : Nat) (cs : List Child)
    (v : Visited) (h : (g.fresh v).card < levels) :
    ∃ trail out, Descends g o p levels cs v trail out := by
  induction levels generalizing cs v with
  | zero => omega
  | succ levels ih =>
      induction cs generalizing v with
      | nil => exact ⟨_, _, .nil⟩
      | cons c cs ihcs =>
          cases hitem : g.item c with
          | value x => exact ⟨_, _, .value hitem⟩
          | node id n =>
              cases hnew : v.holds id n with
              | true =>
                  obtain ⟨trail, out, hrest⟩ := ihcs v h
                  exact ⟨_, _, .passed hitem hnew hrest⟩
              | false =>
                  cases hplan : p.plan n with
                  | none => exact ⟨_, _, .refused hitem hnew hplan⟩
                  | some plan =>
                      have hn := Graph.get?_of_item hitem
                      have hless := Graph.fresh_insert_lt hn hnew
                      obtain ⟨trail, ⟨first, u⟩, hbefore⟩ :=
                        ih plan.before (v.insert id n) (by omega)
                      have hu : (g.fresh u).card ≤ _ := Graph.fresh_le hbefore.trail_entered
                      cases first with
                      | error f => exact ⟨_, _, .before hitem hnew hplan hbefore⟩
                      | ok ds =>
                          rcases exists_ownDeclaration_or g o id n plan.declares with
                            ⟨own, hown⟩ | ⟨hdeclares, f, hown⟩
                          · obtain ⟨trail', ⟨second, w⟩, hafter⟩ := ih plan.after u (by omega)
                            have hw : (g.fresh w).card ≤ _ := Graph.fresh_le hafter.trail_entered
                            cases second with
                            | error f => exact ⟨_, _, .after hitem hnew hplan hbefore hown hafter⟩
                            | ok ds' =>
                                obtain ⟨rest, out, hrest⟩ := ihcs w (by omega)
                                exact ⟨_, _,
                                  .entered hitem hnew hplan hbefore hown hafter hrest⟩
                          · exact ⟨_, _, .own hitem hnew hplan hbefore hdeclares hown⟩

/-- Every walk has a course, on one level more than there are nodes that do not count as
visited. -/
theorem Walk.descends_walk (g : Graph) (o : Options) (p : Pass) (c : Child) (v : Visited) :
    ∃ trail, Descends g o p ((g.fresh v).card + 1) [c] v trail (walk g o p c v) := by
  obtain ⟨trail, out, h⟩ := exists_descends g o p _ [c] v (Nat.lt_succ_self _)
  have hout := h.eq_walk
  subst hout
  exact ⟨trail, h⟩

end

end SchemaDecls
