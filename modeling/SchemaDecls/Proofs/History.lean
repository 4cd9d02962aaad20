import SchemaDecls.Proofs.Batch
import SchemaDecls.Proofs.Coverage

/-!
# What of the past matters

A file depends on what the passes have visited before, but not on all of it.
What counts is, for every pass, which of the nodes that it can come to count as
visited.  Memos that agree on this lead to the same file or the same failure,
and the same nodes and names are added to both (`generate_depends_on_reachable`).
What has been visited need not be the same in them: a node may count as visited
for itself in one memo, and for another node of its name in the other.

The two runs are compared step by step, whether they return or fail.  Both add
the same nodes one after another, and sets that agree still do when the same
nodes are added to them (`Visited.Agrees.entered`).

Schemas that have neither a node nor a name in common with this one leave no
trace in its file.
-/

namespace SchemaDecls

/-! ## Sets that agree -/

/-- Of these nodes the same ones count as visited in both sets. -/
def Visited.Agrees (g : Graph) (nodes : NodeId → Prop) (v v' : Visited) : Prop :=
  ∀ id n, nodes id → g.get? id = some n → v.holds id n = v'.holds id n

/-- What counts as visited behind a trail did so before it, or lies on it, or
shares its name with a node that lies on it. -/
theorem Entered.holds_iff {g : Graph} {v w : Visited} {ids : List NodeId} (h : Entered g v ids w)
    {id : NodeId} {n : Node} :
    w.holds id n = true ↔ v.holds id n = true ∨ id ∈ ids ∨
      ∃ name, n.name = some name ∧ ∃ other ∈ ids, g.nameOf? other = some name := by
  simp only [Visited.holds_iff, h.ids_eq, h.mem_names_iff, List.mem_append]
  constructor
  · rintro ((hid | hid) | ⟨name, hname, hon | hmem⟩)
    · exact .inr (.inl hid)
    · exact .inl (.inl hid)
    · exact .inr (.inr ⟨name, hname, hon⟩)
    · exact .inl (.inr ⟨name, hname, hmem⟩)
  · rintro ((hid | ⟨name, hname, hmem⟩) | hid | ⟨name, hname, hon⟩)
    · exact .inl (.inr hid)
    · exact .inr ⟨name, hname, .inr hmem⟩
    · exact .inl (.inl hid)
    · exact .inr ⟨name, hname, .inl hon⟩

namespace Visited.Agrees

variable {g : Graph} {nodes nodes' : NodeId → Prop} {v v' w w' : Visited}

theorem mono (h : Agrees g nodes v v') (hle : ∀ id, nodes' id → nodes id) :
    Agrees g nodes' v v' :=
  fun id n hid hn => h id n (hle id hid) hn

/-- Sets that agree still do when the same nodes are added to both. -/
theorem entered {ids : List NodeId} (h : Agrees g nodes v v') (htrail : Entered g v ids w)
    (htrail' : Entered g v' ids w') : Agrees g nodes w w' := by
  intro id n hid hn
  rw [Bool.eq_iff_iff, htrail.holds_iff, htrail'.holds_iff, h id n hid hn]

end Visited.Agrees

/-! ## Walks from sets that agree -/

/-- The two walks, one from `v` and one from `v'`, end with the same result and
have added the same nodes. -/
def Outcome.EndsAlike (g : Graph) (v v' : Visited) (out out' : Outcome) : Prop :=
  out.result = out'.result ∧ ∃ ids, Entered g v ids out.visited ∧ Entered g v' ids out'.visited

namespace Outcome.EndsAlike

variable {g : Graph} {v v' : Visited}

theorem unmoved (result : Except Failure (List Declared)) :
    EndsAlike g v v' ⟨result, v⟩ ⟨result, v'⟩ :=
  ⟨rfl, [], .nil, .nil⟩

theorem andThen {first first' : Outcome} {next next' : Visited → Outcome}
    (hfirst : EndsAlike g v v' first first')
    (hnext : ∀ ids u u', Entered g v ids u → Entered g v' ids u' →
      EndsAlike g u u' (next u) (next' u')) :
    EndsAlike g v v' (first.andThen next) (first'.andThen next') := by
  obtain ⟨hresult, ids, htrail, htrail'⟩ := hfirst
  cases hends : first.result with
  | error f =>
      rw [Outcome.andThen_of_error hends, Outcome.andThen_of_error (hresult.symm.trans hends)]
      exact ⟨hresult, ids, htrail, htrail'⟩
  | ok ds =>
      obtain ⟨hresult', more, hmore, hmore'⟩ := hnext ids _ _ htrail htrail'
      rw [Outcome.andThen_of_ok hends, Outcome.andThen_of_ok (hresult.symm.trans hends)]
      refine ⟨?_, more ++ ids, htrail.trans hmore, htrail'.trans hmore'⟩
      simp only [hresult']

/-- A node that is new to both sets is added to both. -/
theorem enter {id : NodeId} {n : Node} {out out' : Outcome} (hn : g.get? id = some n)
    (hnew : v.holds id n = false) (hnew' : v'.holds id n = false)
    (h : EndsAlike g (v.insert id n) (v'.insert id n) out out') : EndsAlike g v v' out out' := by
  obtain ⟨hresult, ids, htrail, htrail'⟩ := h
  exact ⟨hresult, ids ++ [id], (Entered.single hn hnew).trans htrail,
    (Entered.single hn hnew').trans htrail'⟩

end Outcome.EndsAlike

namespace Walk

section

variable {g : Graph} {o : Options} {p : Pass} {visit : Child → Visited → Outcome}
  {reach : Child → NodeId → Prop} {v v' : Visited}

theorem visitAll_endsAlike
    (hvisit : ∀ c u u', u.Agrees g (reach c) u' →
      Outcome.EndsAlike g u u' (visit c u) (visit c u')) (cs : List Child)
    (h : ∀ c ∈ cs, v.Agrees g (reach c) v') :
    Outcome.EndsAlike g v v' (visitAll visit cs v) (visitAll visit cs v') := by
  induction cs generalizing v v' with
  | nil => exact .unmoved _
  | cons c rest ih =>
      obtain ⟨hfirst, hrest⟩ := List.forall_mem_cons.mp h
      unfold visitAll
      apply Outcome.EndsAlike.andThen (hvisit c v v' hfirst)
      intro ids u u' htrail htrail'
      apply ih
      intro c' hc'
      exact (hrest c' hc').entered htrail htrail'

theorem follow_endsAlike
    (hvisit : ∀ c u u', u.Agrees g (reach c) u' →
      Outcome.EndsAlike g u u' (visit c u) (visit c u')) (id : NodeId) (n : Node) (plan : Plan)
    (h : ∀ c ∈ plan.edges, v.Agrees g (reach c) v') :
    Outcome.EndsAlike g v v' (follow visit g o id n plan v) (follow visit g o id n plan v') := by
  unfold follow
  apply Outcome.EndsAlike.andThen
  · apply Outcome.EndsAlike.andThen
    · apply visitAll_endsAlike hvisit
      intro c hc
      exact h c (List.mem_append_left _ hc)
    · intro _ u u' _ _
      unfold declareIf
      cases plan.declares with
      | false => exact .unmoved _
      | true => exact .unmoved _
  · intro ids u u' htrail htrail'
    apply visitAll_endsAlike hvisit
    intro c hc
    exact (h c (List.mem_append_right _ hc)).entered htrail htrail'

end

/-- Walks from sets that agree on the nodes that the pass can come to end alike. -/
theorem walkUpTo_endsAlike (g : Graph) (o : Options) (p : Pass) (depth : Nat) (c : Child)
    (v v' : Visited) (h : v.Agrees g (Reaches g (fun n next => next ∈ p.edges n) c) v') :
    Outcome.EndsAlike g v v' (walkUpTo g o p depth c v) (walkUpTo g o p depth c v') := by
  induction depth generalizing c v v' with
  | zero => exact .unmoved _
  | succ depth ih =>
      cases hitem : g.item c with
      | value x =>
          rw [walkUpTo_of_value hitem, walkUpTo_of_value hitem]
          exact .unmoved _
      | node id n =>
          have hn := Graph.get?_of_item hitem
          have hsame : v.holds id n = v'.holds id n := h id n (.here hitem) hn
          cases hheld : v.holds id n with
          | true =>
              rw [walkUpTo_of_holds hitem hheld, walkUpTo_of_holds hitem (hsame ▸ hheld)]
              exact .unmoved _
          | false =>
              have hheld' : v'.holds id n = false := hsame ▸ hheld
              cases hplan : p.plan n with
              | none =>
                  rw [walkUpTo_of_plan_eq_none hitem hheld hplan,
                    walkUpTo_of_plan_eq_none hitem hheld' hplan]
                  exact .enter hn hheld hheld' (.unmoved _)
              | some plan =>
                  rw [walkUpTo_of_plan_eq_some hitem hheld hplan,
                    walkUpTo_of_plan_eq_some hitem hheld' hplan]
                  apply Outcome.EndsAlike.enter hn hheld hheld'
                  apply follow_endsAlike ih
                  intro next hnext
                  rw [Plan.edges, ← Pass.edges_of_plan hplan] at hnext
                  apply (h.mono fun other hother => .step hitem hnext hother).entered
                  · exact .single hn hheld
                  · exact .single hn hheld'

end Walk

/-! ## Runs from memos that agree -/

/-- The two runs, one from `m` and one from `m'`, end with the same result, and
their passes have added the same nodes. -/
def Run.EndsAlike {α : Type} (g : Graph) (m m' : Memo) (run run' : Run α) : Prop :=
  run.result = run'.result ∧ ∀ which, ∃ ids,
    Entered g (m.get which) ids (run.memo.get which) ∧
      Entered g (m'.get which) ids (run'.memo.get which)

/-- Both memos agree on the nodes that the passes can come to from the root. -/
def Memo.Agrees (g : Graph) (root : Child) (m m' : Memo) : Prop :=
  ∀ which, (m.get which).Agrees g (which.Reaches g root) (m'.get which)

namespace Run.EndsAlike

variable {g : Graph} {o : Options} {root : Child} {m m' : Memo} {α β : Type}

theorem unmoved (result : Except Failure α) : EndsAlike g m m' ⟨result, m⟩ ⟨result, m'⟩ :=
  ⟨rfl, fun _ => ⟨[], .nil, .nil⟩⟩

/-- What comes after runs that end alike starts from memos that agree. -/
theorem andThen {first first' : Run α} {next next' : α → Memo → Run β}
    (hagrees : m.Agrees g root m') (hfirst : EndsAlike g m m' first first')
    (hnext : ∀ a w w', w.Agrees g root w' → EndsAlike g w w' (next a w) (next' a w')) :
    EndsAlike g m m' (first.andThen next) (first'.andThen next') := by
  obtain ⟨hresult, htrails⟩ := hfirst
  unfold Run.andThen
  rw [← hresult]
  cases first.result with
  | error f => exact ⟨rfl, htrails⟩
  | ok a =>
      have hlater : Memo.Agrees g root first.memo first'.memo := by
        intro which
        obtain ⟨ids, htrail, htrail'⟩ := htrails which
        exact (hagrees which).entered htrail htrail'
      obtain ⟨hresult', hmore⟩ := hnext a _ _ hlater
      refine ⟨hresult', ?_⟩
      intro which
      obtain ⟨ids, htrail, htrail'⟩ := htrails which
      obtain ⟨more, htrail₂, htrail₂'⟩ := hmore which
      exact ⟨more ++ ids, htrail.trans htrail₂, htrail'.trans htrail₂'⟩

end Run.EndsAlike

section

variable {g : Graph} {o : Options} {root : Child} {m m' : Memo}

theorem runSection_endsAlike (name : Option String) (which : Section)
    (h : m.Agrees g root m') :
    Run.EndsAlike g m m' (runSection g o name which root m)
      (runSection g o name which root m') := by
  have hreach : (m.get which).Agrees g
      (Reaches g (fun n next => next ∈ (Pass.ofSection o name which).edges n) root)
      (m'.get which) :=
    (h which).mono fun _ hid => hid.mono fun _ _ hnext => (Pass.mem_edges_iff o name).mp hnext
  obtain ⟨hresult, ids, htrail, htrail'⟩ :=
    Walk.walkUpTo_endsAlike g o (Pass.ofSection o name which) (g.size + 1) root _ _ hreach
  refine ⟨hresult, ?_⟩
  intro other
  unfold runSection
  by_cases hsame : other = which
  · subst hsame
    rw [Memo.get_set_self, Memo.get_set_self]
    exact ⟨ids, htrail, htrail'⟩
  · rw [Memo.get_set_of_ne m _ hsame, Memo.get_set_of_ne m' _ hsame]
    exact ⟨[], .nil, .nil⟩

theorem runPasses_endsAlike (h : m.Agrees g root m') :
    Run.EndsAlike g m m' (runPasses g o root m) (runPasses g o root m') := by
  unfold runPasses
  cases rootName g root with
  | error f => exact .unmoved _
  | ok name =>
      apply Run.EndsAlike.andThen h (runSection_endsAlike _ _ h)
      intro types m₁ m₁' h₁
      apply Run.EndsAlike.andThen h₁ (runSection_endsAlike _ _ h₁)
      intro interfaces m₂ m₂' h₂
      apply Run.EndsAlike.andThen h₂ (runSection_endsAlike _ _ h₂)
      intro enums m₃ m₃' _
      exact .unmoved _

theorem generate_endsAlike (h : m.Agrees g root m') :
    Run.EndsAlike g m m' (generate g o root m) (generate g o root m') := by
  unfold generate
  apply Run.EndsAlike.andThen h (runPasses_endsAlike h)
  intro d w w' _
  exact .unmoved _

end

/-! ## What is added -/

/-- The set `w` is `v` with these nodes and these names, all of them new. -/
structure Visited.Gains (v : Visited) (ids : List NodeId) (names : List String) (w : Visited) :
    Prop where
  ids_eq : w.ids = ids ++ v.ids
  names_eq : w.names = names ++ v.names
  ids_new : ids.Disjoint v.ids
  names_new : names.Disjoint v.names

theorem Entered.gains {g : Graph} {v w : Visited} {ids : List NodeId} (h : Entered g v ids w) :
    v.Gains ids (ids.filterMap g.nameOf?) w := by
  refine ⟨h.ids_eq, h.names_eq, ?_, ?_⟩
  · intro id hid hv
    exact h.not_mem_ids hid hv
  · intro name hmem hv
    obtain ⟨id, hid, hname⟩ := List.mem_filterMap.mp hmem
    obtain ⟨n, hn, hown⟩ := Graph.nameOf?_eq_some_iff.mp hname
    exact Visited.not_mem_names_of_holds_eq_false (h.holds_eq_false hid hn) hown hv

/-- The run from `m` and the run from `m'` cannot be told apart: their results
are the same, and each pass gains the same nodes and the same names. -/
structure Run.SameFrom {α : Type} (m m' : Memo) (run run' : Run α) : Prop where
  result_eq : run.result = run'.result
  gains : ∀ which, ∃ ids names, (m.get which).Gains ids names (run.memo.get which) ∧
    (m'.get which).Gains ids names (run'.memo.get which)

theorem Run.EndsAlike.sameFrom {α : Type} {g : Graph} {m m' : Memo} {run run' : Run α}
    (h : EndsAlike g m m' run run') : SameFrom m m' run run' := by
  obtain ⟨hresult, htrails⟩ := h
  refine ⟨hresult, ?_⟩
  intro which
  obtain ⟨ids, htrail, htrail'⟩ := htrails which
  exact ⟨ids, ids.filterMap g.nameOf?, htrail.gains, htrail'.gains⟩

/-! ## Schemas that have nothing in common -/

/-- The two roots lead to no common node and to no common name. -/
def Graph.Apart (g : Graph) (root other : Child) : Prop :=
  ∀ a b, Section.types.Reaches g root a → Section.types.Reaches g other b →
    a ≠ b ∧ ∀ name, g.nameOf? a = some name → g.nameOf? b ≠ some name

/-- What these nodes refer to are again these nodes, or values. -/
def Graph.closedUnder (g : Graph) (nodes : List NodeId) : Bool :=
  nodes.all fun a => (g.get? a).all fun n => (Pass.types.edges n).all fun c =>
    match c with
    | .node b => nodes.contains b
    | .value _ => true

/-- There is no way out of nodes that refer only to one another. -/
theorem Section.Reaches.mem_of_closedUnder {g : Graph} {nodes : List NodeId} {root : Child}
    {id : NodeId} (h : Section.types.Reaches g root id) (hclosed : g.closedUnder nodes = true)
    (hroot : ∀ a, root = .node a → a ∈ nodes) : id ∈ nodes := by
  induction h with
  | here hitem => exact hroot _ (Graph.item_eq_node_iff.mp hitem).1
  | @step c next a target n hitem hnext _ ih =>
      obtain ⟨hc, hn⟩ := Graph.item_eq_node_iff.mp hitem
      have hedge : next ∈ (Pass.ofSection .default none .types).edges n :=
        (Pass.mem_edges_iff .default none).mpr hnext
      apply ih
      rintro b rfl
      have ha := List.all_eq_true.mp hclosed a (hroot a hc)
      rw [hn] at ha
      simpa using List.all_eq_true.mp ha _ hedge

/-- Roots are apart if they belong to sets of nodes that refer only to one
another and share neither a node nor a name. -/
theorem Graph.apart_of_closedUnder {g : Graph} {a b : NodeId} (nodes others : List NodeId)
    (hnodes : g.closedUnder nodes = true) (hothers : g.closedUnder others = true)
    (ha : a ∈ nodes) (hb : b ∈ others)
    (hdiffer : ∀ x ∈ nodes, ∀ y ∈ others,
      x ≠ y ∧ (g.nameOf? x = g.nameOf? y → g.nameOf? x = none)) :
    g.Apart (.node a) (.node b) := by
  intro x y hx hy
  have hx' := hx.mem_of_closedUnder hnodes (by rintro _ ⟨⟩; exact ha)
  have hy' := hy.mem_of_closedUnder hothers (by rintro _ ⟨⟩; exact hb)
  obtain ⟨hne, hnames⟩ := hdiffer x hx' y hy'
  refine ⟨hne, ?_⟩
  intro name hname hsame
  rw [hnames (hname.trans hsame.symm)] at hname
  contradiction

/-- What a batch visits is reached from one of its roots. -/
theorem Session.after_growsWithin {s : Session} {requests : List Request}
    (h : ∀ r ∈ requests, r.InBatch) :
    s.memo.GrowsWithin s.graph
      (fun _ id => ∃ other, .generate other ∈ requests ∧ Section.types.Reaches s.graph other id)
      (s.after requests).memo := by
  induction requests generalizing s with
  | nil => exact .refl s.memo
  | cons request rest ih =>
      obtain ⟨hfirst, hrest⟩ := List.forall_mem_cons.mp h
      have hlater := ih (s := (s.step request).2) hrest
      rw [graph_step hfirst] at hlater
      have hlater' : Memo.GrowsWithin s.graph (fun _ id => ∃ other,
          .generate other ∈ request :: rest ∧ Section.types.Reaches s.graph other id)
          (s.step request).2.memo ((s.step request).2.after rest).memo := by
        apply hlater.mono
        rintro - id ⟨other, hother, hid⟩
        exact ⟨other, List.mem_cons_of_mem _ hother, hid⟩
      refine Memo.GrowsWithin.trans ?_ hlater'
      cases request with
      | generate root =>
          apply (generate_growsWithin s.graph s.options root s.memo).mono
          intro which id hid
          exact ⟨root, List.mem_cons_self, hid.types⟩
      | setOptions options => exact .refl s.memo
      | _ => exact hfirst.elim

/-- What a batch has visited is nothing to a schema apart from all of its roots. -/
theorem Session.agrees_after {g : Graph} {o : Options} {root : Child} {requests : List Request}
    (hbatch : ∀ r ∈ requests, r.InBatch)
    (hapart : ∀ other, .generate other ∈ requests → g.Apart root other) :
    ((Session.start g o).after requests).memo.Agrees g root .empty := by
  intro which id n hid hn
  obtain ⟨ids, htrail, hreached⟩ := after_growsWithin (s := Session.start g o) hbatch which
  have hempty : (Session.start g o).memo.get which = .empty := Memo.get_empty which
  rw [hempty] at htrail
  rw [Memo.get_empty, Visited.holds_empty, ← Bool.not_eq_true, htrail.holds_iff,
    Visited.holds_empty]
  rintro (hfalse | hmem | ⟨name, hname, other, hother, hsame⟩)
  · contradiction
  · obtain ⟨root', hroot', hid'⟩ := hreached id hmem
    exact (hapart root' hroot' id id hid.types hid').1 rfl
  · obtain ⟨root', hroot', hother'⟩ := hreached other hother
    have hown : g.nameOf? id = some name := Graph.nameOf?_eq_some_iff.mpr ⟨n, hn, hname⟩
    exact (hapart root' hroot' id other hid.types hother').2 name hown hsame

/-- A run depends on the past only through which of the nodes that its passes can
come to count as visited.  In particular, after any files for schemas that have
no node and no name in common with this one, it is as if it were the first. -/
theorem generate_depends_on_reachable (g : Graph) (o : Options) (root : Child) :
    (∀ m m' : Memo, m.Agrees g root m' →
      Run.SameFrom m m' (generate g o root m) (generate g o root m')) ∧
    ∀ (o' : Options) (requests : List Request), (∀ r ∈ requests, r.InBatch) →
      (∀ other, .generate other ∈ requests → g.Apart root other) →
      Run.SameFrom ((Session.start g o').after requests).memo .empty
        (generate g o root ((Session.start g o').after requests).memo)
        (generate g o root .empty) := by
  constructor
  · intro m m' hagrees
    exact (generate_endsAlike hagrees).sameFrom
  · intro o' requests hbatch hapart
    exact (generate_endsAlike (Session.agrees_after hbatch hapart)).sameFrom

/-- The pass for aliases has visited the text that is called address. -/
def textMemo : Memo := Memo.empty.set .types ⟨[2], ["address"]⟩

/-- It has visited the pair of that name instead, and something of another graph. -/
def pairMemo : Memo := Memo.empty.set .types ⟨[3, 9], ["address", "colour"]⟩

/-- The file of a mailbox does not show which of the two addresses has been
visited, nor that the file of a parcel failed before. -/
theorem mailbox_depends_on_reachable :
    textMemo.Agrees postSession.graph (.node 0) pairMemo ∧
      Run.SameFrom textMemo pairMemo
        (generate postSession.graph .unbannered (.node 0) textMemo)
        (generate postSession.graph .unbannered (.node 0) pairMemo) ∧
      (∀ r ∈ [Request.generate (.node 4)], r.InBatch) ∧
      (∀ other, .generate other ∈ [Request.generate (.node 4)] →
        postSession.graph.Apart (.node 0) other) ∧
      Run.SameFrom
        ((Session.start postSession.graph .unbannered).after [.generate (.node 4)]).memo .empty
        (generate postSession.graph .unbannered (.node 0)
          ((Session.start postSession.graph .unbannered).after [.generate (.node 4)]).memo)
        (generate postSession.graph .unbannered (.node 0) .empty) := by
  have hagrees : textMemo.Agrees postSession.graph (.node 0) pairMemo := by
    have hall : ∀ which ∈ [Section.types, .interfaces, .enums], ∀ id < postSession.graph.size,
        (postSession.graph.get? id).all (fun n =>
          (textMemo.get which).holds id n == (pairMemo.get which).holds id n) = true := by
      decide
    intro which id n _ hn
    have hwhich : which ∈ [Section.types, .interfaces, .enums] := by cases which <;> decide
    have hid := hall which hwhich id (Graph.lt_size_of_get? hn)
    rw [hn] at hid
    simpa using hid
  have hbatch : ∀ r ∈ [Request.generate (.node 4)], r.InBatch := by simp [Request.InBatch]
  have hapart : ∀ other, .generate other ∈ [Request.generate (.node 4)] →
      postSession.graph.Apart (.node 0) other := by
    intro other hother
    obtain rfl : other = .node 4 := by simpa using hother
    exact Graph.apart_of_closedUnder [0, 1, 2, 3] [4, 5] (by decide) (by decide) (by decide)
      (by decide) (by decide)
  obtain ⟨hsame, hfresh⟩ := generate_depends_on_reachable postSession.graph .unbannered (.node 0)
  exact ⟨hagrees, hsame _ _ hagrees, hbatch, hapart, hfresh .unbannered _ hbatch hapart⟩

end SchemaDecls
