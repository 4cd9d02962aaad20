import SchemaDecls.Proofs.Declaring
import SchemaDecls.Proofs.Trail
import SchemaDecls.Walk

/-!
# Walks that come to their end

`Visits g o p cs v ds w` describes, without depths and failures, a pass that
visits the children `cs` one after another from `v` on: it comes to its end,
has written `ds` and has visited `w`.  Each rule is one of the ways in which a
walk deals with the next child.  `visits_of_walk` says that walks that return
are described by it.

The relation speaks of a list of children and not of a single one, so that the
children of a node and its later siblings are alike, and an induction over it
has no second relation to carry along.

## Main results

* `Visits.trail` — the pass leaves a trail, and what it has written are the
  declarations of the nodes on the trail that it declares, each once.
* `Visits.declarationAt` — each text that it has written is the declaration of
  the node under whose number it stands.
* `Visits.covers` — each of the children counts as visited in the end.
* `Visits.hadTurn` — each node that was added has had its turn, in which its
  plan was carried out.
* `Visits.closed` — so each child of a node that was added counts as visited,
  too.  While a walk is under way this fails for the nodes above it, whose later
  children are still to come.
-/

namespace SchemaDecls

/-- What a pass writes for a node itself, if it is to be declared. -/
inductive OwnDeclaration (g : Graph) (o : Options) (id : NodeId) (n : Node) :
    Bool → List Declared → Prop
  | silent : OwnDeclaration g o id n false []
  | declared {text : String} (h : Declaration.ofNode g o n = .ok text) :
      OwnDeclaration g o id n true [⟨id, text⟩]

/-- A pass visits children one after another and comes to its end. -/
inductive Visits (g : Graph) (o : Options) (p : Pass) :
    List Child → Visited → List Declared → Visited → Prop
  | nil {v : Visited} : Visits g o p [] v [] v
  /-- A child that counts as visited is passed over. -/
  | passed {c : Child} {cs : List Child} {v w : Visited} {ds : List Declared} {id : NodeId}
      {n : Node} (hitem : g.item c = .node id n) (hheld : v.holds id n = true)
      (hrest : Visits g o p cs v ds w) : Visits g o p (c :: cs) v ds w
  /-- Any other node is added, and its plan is carried out before the rest. -/
  | entered {c : Child} {cs : List Child} {v v₁ v₂ w : Visited} {ds₁ own ds₂ ds : List Declared}
      {id : NodeId} {n : Node} {plan : Plan} (hitem : g.item c = .node id n)
      (hnew : v.holds id n = false) (hplan : p.plan n = some plan)
      (hbefore : Visits g o p plan.before (v.insert id n) ds₁ v₁)
      (hown : OwnDeclaration g o id n plan.declares own)
      (hafter : Visits g o p plan.after v₁ ds₂ v₂) (hrest : Visits g o p cs v₂ ds w) :
      Visits g o p (c :: cs) v (ds₁ ++ own ++ ds₂ ++ ds) w

/-- The pass declares the node with this number. -/
def Pass.declaresAt (p : Pass) (g : Graph) (id : NodeId) : Bool :=
  (g.get? id).any p.declares

/-! ## Walks that return -/

/-- Two walks in a row return if both do. -/
theorem Outcome.andThen_eq_ok {first : Outcome} {next : Visited → Outcome} {ds : List Declared}
    {w : Visited} (h : first.andThen next = ⟨.ok ds, w⟩) :
    ∃ ds₁ v₁ ds₂, first = ⟨.ok ds₁, v₁⟩ ∧ next v₁ = ⟨.ok ds₂, w⟩ ∧ ds = ds₁ ++ ds₂ := by
  obtain ⟨result, v₁⟩ := first
  cases result with
  | error f => simp [Outcome.andThen] at h
  | ok ds₁ =>
      rw [Outcome.andThen_of_ok rfl] at h
      obtain ⟨hds, hw⟩ := Outcome.mk.inj h
      cases hnext : (next v₁).result with
      | error f =>
          rw [hnext] at hds
          contradiction
      | ok ds₂ =>
          rw [hnext] at hds
          refine ⟨ds₁, v₁, ds₂, rfl, ?_, (Except.ok.inj hds).symm⟩
          rw [← hnext, ← hw]

theorem ownDeclaration_of_declareIf {g : Graph} {o : Options} {id : NodeId} {n : Node}
    {declares : Bool} {v w : Visited} {own : List Declared}
    (h : Walk.declareIf declares g o id n v = ⟨.ok own, w⟩) :
    OwnDeclaration g o id n declares own ∧ w = v := by
  unfold Walk.declareIf at h
  cases declares with
  | false =>
      obtain ⟨hown, hv⟩ := Outcome.mk.inj h
      obtain rfl := Except.ok.inj hown
      exact ⟨.silent, hv.symm⟩
  | true =>
      obtain ⟨hown, hv⟩ := Outcome.mk.inj h
      cases htext : Declaration.ofNode g o n with
      | error f =>
          rw [htext] at hown
          contradiction
      | ok text =>
          rw [htext] at hown
          obtain rfl := Except.ok.inj hown
          exact ⟨.declared htext, hv.symm⟩

theorem OwnDeclaration.declareIf_eq {g : Graph} {o : Options} {id : NodeId} {n : Node}
    {declares : Bool} {own : List Declared} (h : OwnDeclaration g o id n declares own)
    (v : Visited) : Walk.declareIf declares g o id n v = ⟨.ok own, v⟩ := by
  cases h with
  | silent => rfl
  | declared htext =>
      rw [Walk.declareIf, if_pos rfl, htext]
      rfl

namespace Visits

variable {g : Graph} {o : Options} {p : Pass}

theorem append {cs more : List Child} {u v w : Visited} {ds ds' : List Declared}
    (h : Visits g o p cs u ds v) (h' : Visits g o p more v ds' w) :
    Visits g o p (cs ++ more) u (ds ++ ds') w := by
  induction h with
  | nil => exact h'
  | passed hitem hheld _ ih => exact .passed hitem hheld (ih h')
  | entered hitem hnew hplan hbefore hown hafter _ _ _ ih =>
      rw [List.append_assoc]
      exact .entered hitem hnew hplan hbefore hown hafter (ih h')

end Visits

/-- A way of visiting single children that is described by `Visits` visits
lists of children as `Visits` says. -/
theorem visits_of_visitAll {g : Graph} {o : Options} {p : Pass}
    {visit : Child → Visited → Outcome}
    (hvisit : ∀ c v ds w, visit c v = ⟨.ok ds, w⟩ → Visits g o p [c] v ds w) :
    ∀ (cs : List Child) (v : Visited) (ds : List Declared) (w : Visited),
      Walk.visitAll visit cs v = ⟨.ok ds, w⟩ → Visits g o p cs v ds w := by
  intro cs
  induction cs with
  | nil =>
      intro v ds w h
      obtain ⟨hds, rfl⟩ := Outcome.mk.inj h
      obtain rfl := Except.ok.inj hds
      exact .nil
  | cons c rest ih =>
      intro v ds w h
      unfold Walk.visitAll at h
      obtain ⟨ds₁, v₁, ds₂, hc, hrest, rfl⟩ := Outcome.andThen_eq_ok h
      exact (hvisit c v ds₁ v₁ hc).append (ih v₁ ds₂ w hrest)

theorem visits_of_walkUpTo {g : Graph} {o : Options} {p : Pass} :
    ∀ (depth : Nat) (c : Child) (v : Visited) (ds : List Declared) (w : Visited),
      Walk.walkUpTo g o p depth c v = ⟨.ok ds, w⟩ → Visits g o p [c] v ds w := by
  intro depth
  induction depth with
  | zero =>
      intro c v ds w h
      simp [Walk.walkUpTo] at h
  | succ depth ih =>
      intro c v ds w h
      cases hitem : g.item c with
      | value x =>
          rw [Walk.walkUpTo_of_value hitem] at h
          simp at h
      | node id n =>
          cases hheld : v.holds id n with
          | true =>
              rw [Walk.walkUpTo_of_holds hitem hheld] at h
              obtain ⟨hds, rfl⟩ := Outcome.mk.inj h
              obtain rfl := Except.ok.inj hds
              exact .passed hitem hheld .nil
          | false =>
              cases hplan : p.plan n with
              | none =>
                  rw [Walk.walkUpTo_of_plan_eq_none hitem hheld hplan] at h
                  simp at h
              | some plan =>
                  rw [Walk.walkUpTo_of_plan_eq_some hitem hheld hplan] at h
                  unfold Walk.follow at h
                  obtain ⟨ds₁₂, v₂, ds₃, hfirst, hafter, rfl⟩ := Outcome.andThen_eq_ok h
                  obtain ⟨ds₁, v₁, own, hbefore, hself, rfl⟩ := Outcome.andThen_eq_ok hfirst
                  obtain ⟨hown, rfl⟩ := ownDeclaration_of_declareIf hself
                  have hb := visits_of_visitAll ih _ _ _ _ hbefore
                  have ha := visits_of_visitAll ih _ _ _ _ hafter
                  simpa using Visits.entered hitem hheld hplan hb hown ha .nil

/-- A walk that returns is described by `Visits`. -/
theorem visits_of_walk {g : Graph} {o : Options} {p : Pass} {c : Child} {v w : Visited}
    {ds : List Declared} (h : Walk.walk g o p c v = ⟨.ok ds, w⟩) : Visits g o p [c] v ds w :=
  visits_of_walkUpTo _ _ _ _ _ h

/-! ## What such a pass has done -/

/-- The declaration of the node with this number has this text. -/
def Graph.DeclarationAt (g : Graph) (o : Options) (id : NodeId) (text : String) : Prop :=
  ∃ n, g.get? id = some n ∧ Declaration.ofNode g o n = .ok text

/-- A node that is declared has a name. -/
theorem Graph.DeclarationAt.exists_name {g : Graph} {o : Options} {id : NodeId} {text : String}
    (h : g.DeclarationAt o id text) : ∃ name, g.nameOf? id = some name := by
  obtain ⟨n, hn, htext⟩ := h
  obtain ⟨⟨name, hname⟩, -⟩ := Declaration.ofNode_eq_ok htext
  exact ⟨name, nameOf?_eq_some_iff.mpr ⟨n, hn, hname⟩⟩

theorem Graph.DeclarationAt.ne_empty {g : Graph} {o : Options} {id : NodeId} {text : String}
    (h : g.DeclarationAt o id text) : text ≠ "" := by
  obtain ⟨n, -, htext⟩ := h
  exact (Declaration.ofNode_eq_ok htext).2.ne_empty

/-- The own declaration of a node is written under its number, or not at all. -/
theorem OwnDeclaration.map_id {g : Graph} {o : Options} {p : Pass} {id : NodeId} {n : Node}
    {plan : Plan} {own : List Declared} (h : OwnDeclaration g o id n plan.declares own)
    (hn : g.get? id = some n) (hplan : p.plan n = some plan) :
    own.map Declared.id = [id].filter (p.declaresAt g) := by
  have hdeclares : p.declaresAt g id = plan.declares := by
    simp [Pass.declaresAt, Pass.declares, hn, hplan]
  cases hd : plan.declares with
  | false =>
      rw [hd] at h hdeclares
      cases h
      simp [hdeclares]
  | true =>
      rw [hd] at h hdeclares
      cases h
      simp [hdeclares]

/-- An unnamed node has no declaration of its own. -/
theorem OwnDeclaration.eq_false_of_unnamed {g : Graph} {o : Options} {id : NodeId} {n : Node}
    {declares : Bool} {own : List Declared} (h : OwnDeclaration g o id n declares own)
    (hname : n.name = none) : declares = false := by
  cases h with
  | silent => rfl
  | declared htext =>
      obtain ⟨⟨name, hown⟩, -⟩ := Declaration.ofNode_eq_ok htext
      rw [hname] at hown
      contradiction

theorem OwnDeclaration.text_eq {g : Graph} {o : Options} {id : NodeId} {n : Node}
    {declares : Bool} {own : List Declared} (h : OwnDeclaration g o id n declares own)
    {d : Declared} (hd : d ∈ own) : d.id = id ∧ Declaration.ofNode g o n = .ok d.text := by
  cases h with
  | silent => contradiction
  | declared htext =>
      obtain rfl := List.mem_singleton.mp hd
      exact ⟨rfl, htext⟩

namespace Visits

variable {g : Graph} {o : Options} {p : Pass} {cs : List Child} {v w : Visited}
  {ds : List Declared}

/-- The pass leaves a trail, and has declared once each of the nodes on the
trail that it declares, and nothing else. -/
theorem trail (h : Visits g o p cs v ds w) :
    ∃ ids, Entered g v ids w ∧ (ds.map Declared.id).Perm (ids.filter (p.declaresAt g)) := by
  induction h with
  | nil => exact ⟨[], .nil, .refl _⟩
  | passed _ _ _ ih => exact ih
  | @entered c cs v v₁ v₂ w ds₁ own ds₂ ds id n plan hitem hnew hplan _ hown _ _ ihb iha ihr =>
      obtain ⟨-, hn⟩ := Graph.item_eq_node_iff.mp hitem
      obtain ⟨ids₁, htrail₁, hperm₁⟩ := ihb
      obtain ⟨ids₂, htrail₂, hperm₂⟩ := iha
      obtain ⟨ids₃, htrail₃, hperm₃⟩ := ihr
      have htrail := (((Entered.single hn hnew).trans htrail₁).trans htrail₂).trans htrail₃
      refine ⟨ids₃ ++ (ids₂ ++ (ids₁ ++ [id])), htrail, ?_⟩
      have hself := hown.map_id hn hplan
      simp only [List.map_append, List.filter_append, hself]
      -- The trail lists the last node first, the declarations are in the order of writing.
      have hnode := hperm₁.append_right ([id].filter (p.declaresAt g))
      have hchildren := (hnode.append hperm₂).trans List.perm_append_comm
      exact (hchildren.append hperm₃).trans List.perm_append_comm

theorem declaresAlong (h : Visits g o p cs v ds w) :
    DeclaresAlong g v (ds.map Declared.id) w := by
  obtain ⟨ids, htrail, hperm⟩ := h.trail
  exact ⟨ids, htrail, hperm.subperm.trans List.filter_sublist.subperm⟩

/-- Each declaration is that of the node under whose number it is written. -/
theorem declarationAt (h : Visits g o p cs v ds w) {d : Declared} (hd : d ∈ ds) :
    g.DeclarationAt o d.id d.text := by
  induction h with
  | nil => contradiction
  | passed _ _ _ ih => exact ih hd
  | entered hitem _ _ _ hown _ _ ihb iha ihr =>
      simp only [List.mem_append] at hd
      rcases hd with ((hd | hd) | hd) | hd
      · exact ihb hd
      · obtain ⟨hid, htext⟩ := hown.text_eq hd
        rw [hid]
        exact ⟨_, Graph.get?_of_item hitem, htext⟩
      · exact iha hd
      · exact ihr hd

/-- A pass has nothing to do for a child that counts as visited. -/
theorem eq_of_holds {c : Child} {id : NodeId} {n : Node} (h : Visits g o p [c] v ds w)
    (hitem : g.item c = .node id n) (hheld : v.holds id n = true) : w = v := by
  cases h with
  | passed _ _ hrest =>
      cases hrest
      rfl
  | entered hitem' hnew _ _ _ _ _ =>
      obtain ⟨rfl, rfl⟩ := Graph.item_inj hitem hitem'
      rw [hheld] at hnew
      contradiction

/-- Any other node that is a child it adds. -/
theorem adds_of_not_holds {c : Child} {id : NodeId} {n : Node} (h : Visits g o p [c] v ds w)
    (hitem : g.item c = .node id n) (hnew : v.holds id n = false) : id ∈ w.ids ∧ id ∉ v.ids := by
  refine ⟨?_, Visited.not_mem_ids_of_holds_eq_false hnew⟩
  cases h with
  | passed hitem' hheld _ =>
      obtain ⟨rfl, rfl⟩ := Graph.item_inj hitem hitem'
      rw [hnew] at hheld
      contradiction
  | entered hitem' _ _ hbefore _ hafter hrest =>
      obtain ⟨rfl, rfl⟩ := Graph.item_inj hitem hitem'
      obtain ⟨_, htrail₁, -⟩ := hbefore.trail
      obtain ⟨_, htrail₂, -⟩ := hafter.trail
      obtain ⟨_, htrail₃, -⟩ := hrest.trail
      exact htrail₃.mem_ids (htrail₂.mem_ids
        (htrail₁.mem_ids (Visited.mem_ids_insert.mpr (.inl rfl))))

theorem covers_of_covers (h : Visits g o p cs v ds w) {c : Child} (hc : v.Covers g c) :
    w.Covers g c := by
  obtain ⟨ids, htrail, -⟩ := h.trail
  exact htrail.covers hc

/-- Each of the children counts as visited in the end. -/
theorem covers (h : Visits g o p cs v ds w) {c : Child} (hc : c ∈ cs) : w.Covers g c := by
  induction h with
  | nil => contradiction
  | passed hitem hheld hrest ih =>
      rcases List.mem_cons.mp hc with rfl | hc
      · exact hrest.covers_of_covers ⟨_, _, hitem, hheld⟩
      · exact ih hc
  | @entered c' cs v v₁ v₂ w ds₁ own ds₂ ds id n plan hitem _ _ hbefore _ hafter hrest _ _ ihr =>
      rcases List.mem_cons.mp hc with rfl | hc
      · have hself : (v.insert id n).Covers g c :=
          ⟨id, n, hitem, Visited.holds_insert_self v id n⟩
        exact hrest.covers_of_covers (hafter.covers_of_covers (hbefore.covers_of_covers hself))
      · exact ihr hc

end Visits

/-- The node has had its turn: its plan was carried out, and from there the pass
has come to `w`. -/
inductive HadTurn (g : Graph) (o : Options) (p : Pass) (id : NodeId) (w : Visited) : Prop
  | intro {n : Node} {plan : Plan} {u₀ u₁ u₂ : Visited} {ds₁ own ds₂ : List Declared}
      {rest : List NodeId} (hn : g.get? id = some n) (hplan : p.plan n = some plan)
      (hbefore : Visits g o p plan.before u₀ ds₁ u₁)
      (hown : OwnDeclaration g o id n plan.declares own)
      (hafter : Visits g o p plan.after u₁ ds₂ u₂) (hrest : Entered g u₂ rest w)

theorem HadTurn.later {g : Graph} {o : Options} {p : Pass} {id : NodeId} {v w : Visited}
    {ids : List NodeId} (h : HadTurn g o p id v) (htrail : Entered g v ids w) :
    HadTurn g o p id w := by
  obtain ⟨hn, hplan, hbefore, hown, hafter, hrest⟩ := h
  exact ⟨hn, hplan, hbefore, hown, hafter, hrest.trans htrail⟩

/-- A node that has had its turn has been declared if it is to be, and each of its
children counts as visited. -/
theorem HadTurn.covers {g : Graph} {o : Options} {p : Pass} {id : NodeId} {w : Visited}
    (h : HadTurn g o p id w) :
    ∃ n plan own, g.get? id = some n ∧ p.plan n = some plan ∧
      OwnDeclaration g o id n plan.declares own ∧ ∀ c ∈ plan.edges, w.Covers g c := by
  obtain ⟨hn, hplan, hbefore, hown, hafter, hrest⟩ := h
  refine ⟨_, _, _, hn, hplan, hown, ?_⟩
  intro c hc
  rcases List.mem_append.mp hc with hc | hc
  · exact hrest.covers (hafter.covers_of_covers (hbefore.covers hc))
  · exact hrest.covers (hafter.covers hc)

namespace Visits

variable {g : Graph} {o : Options} {p : Pass} {cs : List Child} {v w : Visited}
  {ds : List Declared}

/-- Each node that was added has had its turn. -/
theorem hadTurn (h : Visits g o p cs v ds w) {id : NodeId} (hw : id ∈ w.ids) (hv : id ∉ v.ids) :
    HadTurn g o p id w := by
  induction h with
  | nil => contradiction
  | passed _ _ _ ih => exact ih hw hv
  | @entered c cs v v₁ v₂ w ds₁ own ds₂ ds id' n plan hitem hnew hplan hb hown ha hr ihb iha ihr =>
      obtain ⟨rest, hrest, -⟩ := hr.trail
      obtain ⟨after, hafter, -⟩ := ha.trail
      by_cases h₂ : id ∈ v₂.ids
      · by_cases h₁ : id ∈ v₁.ids
        · by_cases h₀ : id ∈ (v.insert id' n).ids
          · obtain rfl := (Visited.mem_ids_insert.mp h₀).resolve_right hv
            exact ⟨Graph.get?_of_item hitem, hplan, hb, hown, ha, hrest⟩
          · exact (ihb h₁ h₀).later (hafter.trans hrest)
        · exact (iha h₂ h₁).later hrest
      · exact ihr hw h₂

/-- Each child of a node that was added counts as visited in the end. -/
theorem closed (h : Visits g o p cs v ds w) {id : NodeId} (hw : id ∈ w.ids) (hv : id ∉ v.ids) :
    ∃ n plan, g.get? id = some n ∧ p.plan n = some plan ∧ ∀ c ∈ plan.edges, w.Covers g c := by
  obtain ⟨n, plan, own, hn, hplan, -, hcovers⟩ := (h.hadTurn hw hv).covers
  exact ⟨n, plan, hn, hplan, hcovers⟩

end Visits

end SchemaDecls
