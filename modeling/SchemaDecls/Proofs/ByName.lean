import SchemaDecls.Proofs.Joining
import SchemaDecls.Proofs.PassRules
import SchemaDecls.Proofs.Rank

/-!
# Passes that know nodes by their names alone

A pass passes over a node for one of two reasons: it has been there, or it has met
the name before.  `Walk.writeByNameUpTo` is the pass that is left when the first
reason is dropped.  It forgets where it has been, and goes into an unnamed node as
often as it comes there.

On a graph without cycles this makes no difference to the text
(`Walk.writeUpTo_unnumbered`).  Once the turn of a node is over, the node is
settled: it has a name that is known, or it is unnamed, is not declared, and all of
its children are settled.  To go into a settled node once more writes nothing,
remembers nothing and cannot fail (`Walk.writeByNameUpTo_of_settled`).  While a
walk is under way, the nodes above the present one have been visited and are not
settled, but without a cycle they are not met again.  Their ranks are not smaller
than that of the present node, so the invariant is that all visited nodes below a
certain rank are settled (`SettledBelow`).
-/

namespace SchemaDecls

/-! ## Names alone -/

namespace Visited

/-- What has been visited, by the names alone. -/
def unnumbered (v : Visited) : Visited := ⟨[], v.names⟩

/-- A node of this name has been visited. -/
def knows (v : Visited) (n : Node) : Bool := n.name.any v.names.contains

variable {v : Visited} {id other : NodeId} {n n' : Node}

theorem knows_iff : v.knows n = true ↔ ∃ name, n.name = some name ∧ name ∈ v.names := by
  cases h : n.name <;> simp [knows, h]

theorem holds_iff_mem_or_knows : v.holds id n = true ↔ id ∈ v.ids ∨ v.knows n = true := by
  rw [holds_iff, knows_iff]

theorem knows_unnumbered (v : Visited) (n : Node) : v.unnumbered.knows n = v.knows n := rfl

theorem knows_congr (h : n.name = n'.name) : v.knows n = v.knows n' := by
  rw [knows, knows, h]

theorem unnumbered_insert (v : Visited) (id other : NodeId) (n : Node) :
    (v.unnumbered.insert other n).unnumbered = (v.insert id n).unnumbered := rfl

/-- Of what is added only the name counts. -/
theorem unnumbered_insert_congr (h : n.name = n'.name) :
    (v.insert id n).unnumbered = (v.insert other n').unnumbered := by
  simp only [insert, unnumbered, h]

theorem unnumbered_insert_of_unnamed (h : n.name = none) :
    (v.insert id n).unnumbered = v.unnumbered := by
  simp only [insert, unnumbered, h]

end Visited

/-- The same end, with the names alone. -/
def Written.unnumbered {α : Type} (w : Written α) : Written α := ⟨w.result, w.visited.unnumbered⟩

theorem Written.andThen_unnumbered {α β : Type} {first first' : Written α}
    {next next' : α → Visited → Written β} (hfirst : first.unnumbered = first')
    (hnext : ∀ a, first.result = .ok a →
      (next a first.visited).unnumbered = next' a first.visited.unnumbered) :
    (first.andThen next).unnumbered = first'.andThen next' := by
  subst hfirst
  unfold andThen
  cases hends : first.result with
  | error f => simp [unnumbered, hends]
  | ok a => simpa [unnumbered, hends] using hnext a hends

theorem Written.andThen_eq_ok {α β : Type} {first : Written α} {next : α → Visited → Written β}
    {b : β} (h : (first.andThen next).result = .ok b) :
    ∃ a, first.result = .ok a ∧ first.andThen next = next a first.visited := by
  unfold andThen at h ⊢
  cases hends : first.result with
  | error f =>
      rw [hends] at h
      contradiction
  | ok a => exact ⟨a, rfl, rfl⟩

namespace Walk

/-- The walk of a pass that knows nodes by their names alone. -/
def writeByNameUpTo (g : Graph) (o : Options) (p : Pass) : Nat → Child → Visited → Written String
  | 0, _, v => ⟨.error .endlessNesting, v⟩
  | depth + 1, c, v =>
      match g.item c with
      | .value x => ⟨.error (.unsupported (.value x)), v⟩
      | .node id n =>
          if v.knows n then ⟨.ok "", v⟩
          else
            match p.plan n with
            | none => ⟨.error (.unsupported n.offender), (v.insert id n).unnumbered⟩
            | some plan =>
                writePlan (writeByNameUpTo g o p depth) g o n plan (v.insert id n).unnumbered

section

variable {g : Graph} {o : Options} {p : Pass} {depth : Nat} {c : Child} {v : Visited}
  {id : NodeId} {n : Node}

theorem writeByNameUpTo_of_value {x : Value} (h : g.item c = .value x) :
    writeByNameUpTo g o p (depth + 1) c v = ⟨.error (.unsupported (.value x)), v⟩ := by
  simp [writeByNameUpTo, h]

theorem writeByNameUpTo_of_knows (h : g.item c = .node id n) (hv : v.knows n = true) :
    writeByNameUpTo g o p (depth + 1) c v = ⟨.ok "", v⟩ := by
  simp [writeByNameUpTo, h, hv]

theorem writeByNameUpTo_of_plan_eq_none (h : g.item c = .node id n) (hv : v.knows n = false)
    (hp : p.plan n = none) :
    writeByNameUpTo g o p (depth + 1) c v =
      ⟨.error (.unsupported n.offender), (v.insert id n).unnumbered⟩ := by
  simp [writeByNameUpTo, h, hv, hp]

theorem writeByNameUpTo_of_plan_eq_some {plan : Plan} (h : g.item c = .node id n)
    (hv : v.knows n = false) (hp : p.plan n = some plan) :
    writeByNameUpTo g o p (depth + 1) c v =
      writePlan (writeByNameUpTo g o p depth) g o n plan (v.insert id n).unnumbered := by
  simp [writeByNameUpTo, h, hv, hp]

end

/-! ## Several children -/

section

variable {inv : Visited → Prop} {write write' : Child → Visited → Written String} {g : Graph}
  {o : Options} {v : Visited}

private theorem writeAll_keeps
    (hkeep : ∀ c u text, inv u → (write c u).result = .ok text → inv (write c u).visited)
    {cs : List Child} {texts : List String} (hv : inv v)
    (h : (writeAll write cs v).result = .ok texts) : inv (writeAll write cs v).visited := by
  induction cs generalizing v texts with
  | nil => exact hv
  | cons c rest ih =>
      unfold writeAll at h ⊢
      obtain ⟨text, htext, hends⟩ := Written.andThen_eq_ok h
      rw [hends] at h ⊢
      obtain ⟨more, hmore, hends'⟩ := Written.andThen_eq_ok h
      rw [hends']
      exact ih (hkeep c v text hv htext) hmore

private theorem writeAll_unnumbered
    (hkeep : ∀ c u text, inv u → (write c u).result = .ok text → inv (write c u).visited)
    {cs : List Child}
    (hstep : ∀ c ∈ cs, ∀ u, inv u → (write c u).unnumbered = write' c u.unnumbered) (hv : inv v) :
    (writeAll write cs v).unnumbered = writeAll write' cs v.unnumbered := by
  induction cs generalizing v with
  | nil => rfl
  | cons c rest ih =>
      obtain ⟨hfirst, hrest⟩ := List.forall_mem_cons.mp hstep
      unfold writeAll
      apply Written.andThen_unnumbered (hfirst v hv)
      intro text htext
      apply Written.andThen_unnumbered (ih hrest (hkeep c v text hv htext))
      intro texts _
      rfl

/-- Walks that agree on single children as long as the invariant holds, and that
keep it when they return, agree on the plan of a node. -/
private theorem writePlan_unnumbered
    (hkeep : ∀ c u text, inv u → (write c u).result = .ok text → inv (write c u).visited)
    (n : Node) {plan : Plan}
    (hstep : ∀ c ∈ plan.edges, ∀ u, inv u → (write c u).unnumbered = write' c u.unnumbered)
    (hv : inv v) :
    (writePlan write g o n plan v).unnumbered = writePlan write' g o n plan v.unnumbered := by
  unfold writePlan
  apply Written.andThen_unnumbered (writeAll_unnumbered hkeep
    (fun c hc => hstep c (List.mem_append_left _ hc)) hv)
  intro before hbefore
  apply Written.andThen_unnumbered rfl
  intro own _
  apply Written.andThen_unnumbered (writeAll_unnumbered hkeep
    (fun c hc => hstep c (List.mem_append_right _ hc)) (writeAll_keeps hkeep hv hbefore))
  intro after _
  rfl

private theorem writeAll_of_silent {cs : List Child} (h : ∀ c ∈ cs, write c v = ⟨.ok "", v⟩) :
    writeAll write cs v = ⟨.ok (cs.map fun _ => ""), v⟩ := by
  induction cs with
  | nil => rfl
  | cons c rest ih =>
      obtain ⟨hfirst, hrest⟩ := List.forall_mem_cons.mp h
      unfold writeAll
      rw [hfirst]
      simp only [Written.andThen, ih hrest, List.map_cons]

/-- Where nothing is declared and the children write nothing, nothing is written. -/
private theorem writePlan_of_silent (n : Node) {plan : Plan} (hquiet : plan.declares = false)
    (h : ∀ c ∈ plan.edges, write c v = ⟨.ok "", v⟩) :
    writePlan write g o n plan v = ⟨.ok "", v⟩ := by
  have hbefore := writeAll_of_silent fun c hc => h c (List.mem_append_left plan.after hc)
  have hafter := writeAll_of_silent fun c hc => h c (List.mem_append_right plan.before hc)
  have hempty : joinLines ((plan.before.map fun _ => "") ++ "" :: plan.after.map fun _ => "") =
      "" := by
    rw [joinLines_eq_empty_iff]
    simp
  unfold writePlan ownText
  simp only [hbefore, hafter, hquiet, Written.andThen, Bool.false_eq_true, if_false, hempty]

end

end Walk

/-! ## Settled nodes -/

/-- The child is a node of a known name, or an unnamed node that is not declared and
whose children are settled. -/
inductive Settled (g : Graph) (p : Pass) (names : List String) : Child → Prop
  | known {c : Child} {id : NodeId} {n : Node} {name : String} (hitem : g.item c = .node id n)
      (hname : n.name = some name) (hmem : name ∈ names) : Settled g p names c
  | silent {c : Child} {id : NodeId} {n : Node} {plan : Plan} (hitem : g.item c = .node id n)
      (hname : n.name = none) (hplan : p.plan n = some plan) (hquiet : plan.declares = false)
      (hedges : ∀ d ∈ plan.edges, Settled g p names d) : Settled g p names c

theorem Settled.mono {g : Graph} {p : Pass} {names more : List String} {c : Child}
    (h : Settled g p names c) (hle : ∀ name ∈ names, name ∈ more) : Settled g p more c := by
  induction h with
  | known hitem hname hmem => exact .known hitem hname (hle _ hmem)
  | silent hitem hname hplan hquiet _ ih => exact .silent hitem hname hplan hquiet ih

/-- The child is a node of smaller rank, or a value. -/
def Graph.Below (g : Graph) (r : Nat) (c : Child) : Prop :=
  ∀ id n, g.item c = .node id n → rank g.Refers g.size id < r

/-- Settled are all visited nodes of a smaller rank. -/
def SettledBelow (g : Graph) (p : Pass) (r : Nat) (v : Visited) : Prop :=
  ∀ id ∈ v.ids, rank g.Refers g.size id < r → Settled g p v.names (.node id)

/-- A pass goes to children only. -/
theorem Section.Follows.mem_children {which : Section} {s : Shape} {c : Child}
    (h : which.Follows s c) : c ∈ s.children := by
  cases s <;> simp_all [Section.Follows, Shape.children, interfaceChildren]

section

variable {g : Graph} {o : Options} {rootName : Option String} {which : Section} {id : NodeId}
  {n : Node} {plan : Plan} {c : Child} {v w : Visited} {depth r : Nat}

/-- The children that a pass visits have a smaller rank than their node. -/
theorem Graph.below_of_mem_edges (hacyclic : g.Acyclic) (hn : g.get? id = some n)
    (hplan : (Pass.ofSection o rootName which).plan n = some plan) (hc : c ∈ plan.edges) :
    g.Below (rank g.Refers g.size id) c := by
  rw [Plan.edges, ← Pass.edges_of_plan hplan, Pass.mem_edges_iff] at hc
  intro child m hitem
  exact rank_lt_rank hacyclic (refers_of_mem hn hc.mem_children hitem)
    (lt_size_of_get? (get?_of_item hitem))

/-- To go into a settled node once more has no effect. -/
theorem Walk.writeByNameUpTo_of_settled (hacyclic : g.Acyclic)
    (h : Settled g (Pass.ofSection o rootName which) v.names c) (hc : g.Below depth c) :
    writeByNameUpTo g o (Pass.ofSection o rootName which) depth c v.unnumbered =
      ⟨.ok "", v.unnumbered⟩ := by
  induction h generalizing depth with
  | known hitem hname hmem =>
      have hrank := hc _ _ hitem
      obtain ⟨depth, rfl⟩ : ∃ k, depth = k + 1 := ⟨depth - 1, by omega⟩
      exact writeByNameUpTo_of_knows hitem (Visited.knows_iff.mpr ⟨_, hname, hmem⟩)
  | @silent c id n plan hitem hname hplan hquiet _ ih =>
      have hrank := hc _ _ hitem
      obtain ⟨depth, rfl⟩ : ∃ k, depth = k + 1 := ⟨depth - 1, by omega⟩
      have hunknown : v.unnumbered.knows n = false := by simp [Visited.knows, hname]
      rw [writeByNameUpTo_of_plan_eq_some hitem hunknown hplan, Visited.unnumbered_insert _ id,
        Visited.unnumbered_insert_of_unnamed hname]
      apply writePlan_of_silent n hquiet
      intro d hd
      apply ih d hd
      intro child m hchild
      have hless := Graph.below_of_mem_edges hacyclic (Graph.get?_of_item hitem) hplan hd
        child m hchild
      omega

/-- A node that has had its turn is settled once the visited nodes below it are. -/
theorem HadTurn.settled (hacyclic : g.Acyclic)
    (h : HadTurn g o (Pass.ofSection o rootName which) id w)
    (hname : ∀ name, g.nameOf? id = some name → name ∈ w.names)
    (hbelow : ∀ child ∈ w.ids, rank g.Refers g.size child < rank g.Refers g.size id →
      Settled g (Pass.ofSection o rootName which) w.names (.node child)) :
    Settled g (Pass.ofSection o rootName which) w.names (.node id) := by
  obtain ⟨n, plan, own, hn, hplan, hown, hcovers⟩ := h.covers
  have hitem : g.item (.node id) = .node id n := Graph.item_eq_node_iff.mpr ⟨rfl, hn⟩
  cases hnamed : n.name with
  | some name =>
      exact .known hitem hnamed (hname name (Graph.nameOf?_eq_some_iff.mpr ⟨n, hn, hnamed⟩))
  | none =>
      apply Settled.silent hitem hnamed hplan (hown.eq_false_of_unnamed hnamed)
      intro c hc
      obtain ⟨child, m, hchild, hheld⟩ := hcovers c hc
      rcases Visited.holds_iff.mp hheld with hmem | ⟨name, hm, hmem⟩
      · have hless := Graph.below_of_mem_edges hacyclic hn hplan hc child m hchild
        obtain ⟨rfl, -⟩ := Graph.item_eq_node_iff.mp hchild
        exact hbelow child hmem hless
      · exact .known hchild hm hmem

/-- A pass that comes to its end leaves settled what it has visited. -/
theorem Visits.settledBelow {cs : List Child} {ds : List Declared} (hacyclic : g.Acyclic)
    (h : Visits g o (Pass.ofSection o rootName which) cs v ds w)
    (hv : SettledBelow g (Pass.ofSection o rootName which) r v) :
    SettledBelow g (Pass.ofSection o rootName which) r w := by
  obtain ⟨ids, htrail, -⟩ := h.trail
  intro id hid hrank
  -- The nodes below come first, by their ranks.
  induction hk : rank g.Refers g.size id using Nat.strong_induction_on generalizing id with
  | _ k ih =>
      by_cases hold : id ∈ v.ids
      · apply (hv id hold hrank).mono
        intro name hmem
        exact htrail.mem_names_iff.mpr (.inr hmem)
      · apply (h.hadTurn hid hold).settled hacyclic
        · intro name hname
          exact htrail.mem_names_iff.mpr (.inl ⟨id, htrail.mem_iff.mpr ⟨hid, hold⟩, hname⟩)
        · intro child hchild hless
          exact ih _ (hk ▸ hless) child hchild (by omega) rfl

theorem SettledBelow.insert (hv : SettledBelow g (Pass.ofSection o rootName which) r v)
    (hid : rank g.Refers g.size id < r) :
    SettledBelow g (Pass.ofSection o rootName which) (rank g.Refers g.size id)
      (v.insert id n) := by
  intro other hother hrank
  rcases Visited.mem_ids_insert.mp hother with rfl | hold
  · omega
  · apply (hv other hold (by omega)).mono
    intro name hmem
    exact Visited.mem_names_insert.mpr (.inr hmem)

namespace Walk

theorem visits_of_writeUpTo {p : Pass} {text : String}
    (h : (writeUpTo g o p depth c v).result = .ok text) :
    ∃ ds, Visits g o p [c] v ds (writeUpTo g o p depth c v).visited := by
  rw [writeUpTo_eq] at h ⊢
  cases hends : (walkUpTo g o p depth c v).result with
  | error f => simp [Outcome.joined, hends, Except.map] at h
  | ok ds =>
      refine ⟨ds, visits_of_walkUpTo depth c v ds _ ?_⟩
      rw [← hends]
      rfl

/-- On a graph without cycles, a pass writes the same if it forgets where it has
been and knows nodes by their names alone. -/
theorem writeUpTo_unnumbered (hacyclic : g.Acyclic) (hr : r ≤ depth) (hc : g.Below r c)
    (hv : SettledBelow g (Pass.ofSection o rootName which) r v) :
    (writeUpTo g o (Pass.ofSection o rootName which) depth c v).unnumbered =
      writeByNameUpTo g o (Pass.ofSection o rootName which) depth c v.unnumbered := by
  induction depth generalizing r c v with
  | zero => rfl
  | succ depth ih =>
      cases hitem : g.item c with
      | value x =>
          rw [writeUpTo_of_value hitem, writeByNameUpTo_of_value hitem]
          rfl
      | node id n =>
          have hrank := hc id n hitem
          obtain ⟨rfl, hn⟩ := Graph.item_eq_node_iff.mp hitem
          cases hheld : v.holds id n with
          | true =>
              rw [writeUpTo_of_holds hitem hheld]
              rcases Visited.holds_iff_mem_or_knows.mp hheld with hid | hknown
              · have hbelow : g.Below (depth + 1) (.node id) :=
                  fun other m hother => Nat.lt_of_lt_of_le (hc other m hother) hr
                rw [writeByNameUpTo_of_settled hacyclic (hv id hid hrank) hbelow]
                rfl
              · rw [← Visited.knows_unnumbered] at hknown
                rw [writeByNameUpTo_of_knows hitem hknown]
                rfl
          | false =>
              have hunknown : v.unnumbered.knows n = false := by
                rw [Visited.knows_unnumbered, ← Bool.not_eq_true]
                intro hknown
                rw [Visited.holds_iff_mem_or_knows.mpr (.inr hknown)] at hheld
                contradiction
              cases hplan : (Pass.ofSection o rootName which).plan n with
              | none =>
                  rw [writeUpTo_of_plan_eq_none hitem hheld hplan,
                    writeByNameUpTo_of_plan_eq_none hitem hunknown hplan]
                  rfl
              | some plan =>
                  rw [writeUpTo_of_plan_eq_some hitem hheld hplan,
                    writeByNameUpTo_of_plan_eq_some hitem hunknown hplan,
                    Visited.unnumbered_insert v id]
                  refine writePlan_unnumbered ?_ n ?_ (hv.insert hrank)
                  · intro d u text hu htext
                    obtain ⟨ds, hvisits⟩ := visits_of_writeUpTo htext
                    exact hvisits.settledBelow hacyclic hu
                  · intro d hd u hu
                    exact ih (by omega) (Graph.below_of_mem_edges hacyclic hn hplan hd) hu

end Walk

end

end SchemaDecls
