import SchemaDecls.Proofs.Batch
import SchemaDecls.Proofs.ByName
import SchemaDecls.Proofs.Expansion
import SchemaDecls.Proofs.Success

/-!
# Schemas that never fail

What goes wrong in a run goes wrong at some node that the root leads to: a child is
no node or is of no type, an enum has no name, or a super-type has none.  A schema
in which nothing of the kind is found is well-formed from its root on
(`Graph.WellFormed`).  Cycles do not matter as long as they are not made of unnamed
nodes alone, and neither does what has been visited before.

Well-formedness speaks of the children that the root leads to, and the root need not
be one of them.  A root that is itself of no type is a case of its own: the passes
refuse it, unless they have visited it before.  So the file of a root that has a
name and is well-formed is returned exactly if the root is of a type or counts as
visited in all passes (`generate_returns_iff_of_wellFormed`).
-/

namespace SchemaDecls

/-! ## Well-formed schemas -/

/-- The root leads to the node, by whatever children. -/
def Graph.Leads (g : Graph) (root : Child) (id : NodeId) : Prop :=
  SchemaDecls.Reaches g (fun n c => c ∈ n.shape.children) root id

/-- A child of a node that the root leads to. -/
def Graph.IsSlot (g : Graph) (root c : Child) : Prop :=
  ∃ id n, g.Leads root id ∧ g.get? id = some n ∧ c ∈ n.shape.children

/-- All children that the root leads to are nodes of some type, all enums have names,
and all super-types are interfaces with names. -/
structure Graph.WellFormed (g : Graph) (root : Child) : Prop where
  slots : ∀ c, g.IsSlot root c → ∃ id n, g.item c = .node id n ∧ n.kind ≠ .bare
  enums : ∀ id n, g.Leads root id → g.get? id = some n → n.kind = .enum → n.hasName = true
  superTypes : ∀ id n properties superTypes, g.Leads root id → g.get? id = some n →
    n.shape = .interface properties superTypes →
    ∀ c ∈ superTypes, ∃ super m, g.item c = .node super m ∧ m.kind = .interface ∧
      m.hasName = true

/-- The child is a node that passes the test. -/
def Graph.passes (g : Graph) (test : Node → Bool) (c : Child) : Bool :=
  match g.item c with
  | .node _ n => test n
  | .value _ => false

/-- The children of the node are nodes of some type, it has a name if it is an enum,
and its super-types are interfaces with names. -/
def Node.fits (g : Graph) (n : Node) : Bool :=
  n.shape.children.all (g.passes fun m => m.kind != .bare) && (n.kind != .enum || n.hasName) &&
    match n.shape with
    | .interface _ superTypes => superTypes.all (g.passes fun m => m.kind == .interface && m.hasName)
    | _ => true

theorem Graph.passes_iff {g : Graph} {test : Node → Bool} {c : Child} :
    g.passes test c = true ↔ ∃ id n, g.item c = .node id n ∧ test n = true := by
  unfold passes
  cases g.item c <;> simp

/-- A graph is well-formed from any root on if each of its nodes fits. -/
theorem Graph.wellFormed_of_forall_fits {g : Graph}
    (h : ∀ a < g.size, (g.get? a).all (Node.fits g) = true) (root : Child) :
    g.WellFormed root := by
  have hfits : ∀ id n, g.get? id = some n → n.fits g = true := by
    intro id n hn
    simpa [hn] using h id (lt_size_of_get? hn)
  refine ⟨?_, ?_, ?_⟩
  · rintro c ⟨id, n, -, hn, hc⟩
    have hnode := hfits id n hn
    simp only [Node.fits, Bool.and_eq_true, List.all_eq_true] at hnode
    simpa [passes_iff] using hnode.1.1 c hc
  · intro id n _ hn henum
    have hnode := hfits id n hn
    simp only [Node.fits, Bool.and_eq_true] at hnode
    simpa [henum] using hnode.1.2
  · intro id n properties superTypes _ hn hshape c hc
    have hnode := hfits id n hn
    simp only [Node.fits, Bool.and_eq_true, hshape, List.all_eq_true] at hnode
    simpa [passes_iff] using hnode.2 c hc

/-- The banner is a text or counts as false. -/
def Options.BannerFits (o : Options) : Prop :=
  (∃ banner, o.banner = .str banner) ∨ o.banner.truthy = false

theorem Options.BannerFits.exists_bannerText {o : Options} (h : o.BannerFits) :
    ∃ banner, bannerText o = .ok banner := by
  unfold bannerText
  rcases h with ⟨banner, hbanner⟩ | hfalse
  · exact ⟨banner, by rw [hbanner]⟩
  · split
    next banner _ => exact ⟨banner, rfl⟩
    next v _ => exact ⟨"", by simp [hfalse]⟩

theorem Section.Reaches.leads {which : Section} {g : Graph} {root : Child} {id : NodeId}
    (h : which.Reaches g root id) : g.Leads root id :=
  SchemaDecls.Reaches.mono h fun _ _ hfollows => hfollows.mem_children

namespace Graph

variable {g : Graph} {root : Child} {id : NodeId} {n : Node}

theorem IsSlot.leads {c : Child} (h : g.IsSlot root c) (hitem : g.item c = .node id n) :
    g.Leads root id := by
  obtain ⟨parent, m, hparent, hm, hc⟩ := h
  exact SchemaDecls.Reaches.trans hparent hm hc (.here hitem)

/-- What an expansion meets from a child on that the root leads to is such a child. -/
theorem IsSlot.of_meets {c d : Child} (hmeets : TypeExpr.Meets g c d) (h : g.IsSlot root c) :
    g.IsSlot root d := by
  induction hmeets with
  | here => exact h
  | inside hitem _ hnext _ ih =>
      have hinner := Shape.written_subset hnext
      exact ih ⟨_, _, h.leads hitem, get?_of_item hitem, hinner⟩

namespace WellFormed

/-- Where the root is of a type, so is everything that it leads to. -/
theorem kind_ne_bare (h : g.WellFormed root)
    (hroot : ∀ id n, g.item root = .node id n → n.kind ≠ .bare) (hid : g.Leads root id)
    (hn : g.get? id = some n) : n.kind ≠ .bare := by
  have hitem : g.item (.node id) = .node id n := item_eq_node_iff.mpr ⟨rfl, hn⟩
  rcases SchemaDecls.Reaches.last hid with rfl | ⟨parent, m, hparent, hm, hc⟩
  · exact hroot id n hitem
  · obtain ⟨id', n', hitem', hkind⟩ := h.slots (.node id) ⟨parent, m, hparent, hm, hc⟩
    obtain ⟨rfl, rfl⟩ := Graph.item_inj hitem hitem'
    exact hkind

/-- No child that the root leads to is without an expression. -/
theorem not_offends (h : g.WellFormed root) {c : Child} (hc : g.IsSlot root c)
    {offender : Offender} : ¬ TypeExpr.Offends g c offender := by
  obtain ⟨id, n, hitem, hkind⟩ := h.slots c hc
  intro hoffends
  cases hoffends with
  | value hitem' =>
      rw [hitem] at hitem'
      contradiction
  | node hitem' hname hkind' =>
      obtain ⟨rfl, rfl⟩ := Graph.item_inj hitem hitem'
      have henum : n.kind = .enum := hkind'.resolve_right hkind
      have hnamed := h.enums id n (hc.leads hitem) (get?_of_item hitem) henum
      simp [Node.hasName, hname] at hnamed

/-- A node with a name that the root leads to has nothing for which its declaration
could fail. -/
theorem not_fault (h : g.WellFormed root) (hid : g.Leads root id) (hn : g.get? id = some n)
    (hkind : n.kind ≠ .bare) (hname : n.hasName = true) {e : Failure} :
    ¬ Declaration.Fault g n e := by
  intro hfault
  cases hfault with
  | unnamed hnone => simp [Node.hasName, hnone] at hname
  | bare hbare => exact hkind hbare
  | expanded hc hmeets hoffends =>
      have hslot : g.IsSlot root _ := ⟨id, n, hid, hn, Shape.expanded_subset hc⟩
      exact h.not_offends (hslot.of_meets hmeets) hoffends
  | unnamedSuperType hshape hc hitem hnone =>
      obtain ⟨super, m, hitem', -, hnamed⟩ := h.superTypes id n _ _ hid hn hshape _ hc
      obtain ⟨rfl, rfl⟩ := Graph.item_inj hitem hitem'
      simp [Node.hasName, hnone] at hnamed
  | straySuperType hstray =>
      obtain ⟨properties, before, c, after, hshape, hitem, -⟩ := hstray
      obtain ⟨super, m, hitem', -, -⟩ := h.superTypes id n _ _ hid hn hshape c (by simp)
      rw [hitem] at hitem'
      contradiction

/-- The declaration of a named node that the root leads to can be written. -/
theorem exists_declaration (h : g.WellFormed root) (hunfolds : g.Unfolds) (o : Options)
    (hid : g.Leads root id) (hn : g.get? id = some n) (hkind : n.kind ≠ .bare)
    (hname : n.hasName = true) : ∃ text, Declaration.ofNode g o n = .ok text := by
  cases hends : Declaration.ofNode g o n with
  | ok text => exact ⟨text, rfl⟩
  | error e =>
      have hfault := Declaration.ofNode_eq_error hunfolds hends
      exact (h.not_fault hid hn hkind hname hfault).elim

/-- Nothing stands in the way of the file of a root that is of a type. -/
theorem admits (h : g.WellFormed root) (hunfolds : g.Unfolds) (o : Options) {name : String}
    (hroot : rootName g root = .ok name)
    (htype : ∀ id n, g.item root = .node id n → n.kind ≠ .bare) : g.Admits o root := by
  refine ⟨name, hroot, ?_⟩
  intro which id hreach
  obtain ⟨n, hn⟩ := SchemaDecls.Reaches.exists_get? hreach
  have hkind : n.kind ≠ .bare := h.kind_ne_bare htype hreach.leads hn
  cases hplan : (Pass.ofSection o (some name) which).plan n with
  | none => exact absurd ((Pass.plan_eq_none_iff o (some name)).mp hplan) hkind
  | some plan =>
      refine ⟨n, plan, hn, hplan, ?_, ?_⟩
      · intro hdeclares
        have hrule : which.Declares o (some name) n := by
          rw [← Pass.declares_iff o (some name) hkind]
          simp [Pass.declares, hplan, hdeclares]
        have hname : n.hasName = true := by
          cases which with
          | types => exact hrule.1
          | interfaces => exact hrule.2.1
          | enums => exact h.enums id n hreach.leads hn hrule
        exact h.exists_declaration hunfolds o hreach.leads hn hkind hname
      · intro c hc
        rw [Plan.edges, ← Pass.edges_of_plan hplan, Pass.mem_edges_iff] at hc
        obtain ⟨child, m, hitem, -⟩ := h.slots c ⟨id, n, hreach.leads, hn, hc.mem_children⟩
        exact ⟨child, m, hitem⟩

end WellFormed

end Graph

/-! ## Roots that are of no type -/

/-- A pass refuses a root that is of no type, unless it has visited it before. -/
theorem Walk.walk_of_bare {g : Graph} {o : Options} {rootName : Option String}
    {which : Section} {root : Child} {id : NodeId} {n : Node} {v : Visited}
    (hitem : g.item root = .node id n) (hbare : n.kind = .bare) (hnew : v.holds id n = false) :
    walk g o (Pass.ofSection o rootName which) root v =
      ⟨.error (.unsupported n.offender), v.insert id n⟩ :=
  walkUpTo_of_plan_eq_none hitem hnew ((Pass.plan_eq_none_iff o rootName).mpr hbare)

/-- The file of a well-formed root that has a name is returned exactly if the root is
of a type or counts as visited in all passes, whatever else has been visited.
Unnamed nodes must not nest without an end, and the banner must be a text or count as
false. -/
theorem generate_returns_iff_of_wellFormed (g : Graph) (o : Options) (root : Child) (m : Memo)
    (id : NodeId) (n : Node) (hunfolds : g.Unfolds) (hform : g.WellFormed root)
    (hitem : g.item root = .node id n) (hname : n.hasName = true) (hbanner : o.BannerFits) :
    (∃ text, (generate g o root m).result = .ok text) ↔
      n.kind ≠ .bare ∨ ∀ which, (m.get which).holds id n = true := by
  obtain ⟨name, hname⟩ := Option.isSome_iff_exists.mp hname
  have hroot : rootName g root = .ok name := rootName_eq_ok_iff.mpr ⟨id, n, hitem, hname⟩
  obtain ⟨banner, hbanner⟩ := hbanner.exists_bannerText
  constructor
  · rintro ⟨text, htext⟩
    by_cases hkind : n.kind = .bare
    · refine .inr fun which => ?_
      obtain ⟨banner, d, -, hrun, -, -⟩ := generate_eq_ok htext
      obtain ⟨rootText, -, hwalks⟩ := runPasses_eq_ok hrun
      cases hheld : (m.get which).holds id n with
      | true => rfl
      | false =>
          have hwalk := hwalks which
          rw [Walk.walk_of_bare hitem hkind hheld] at hwalk
          simp at hwalk
    · exact .inl hkind
  · rintro (hkind | hheld)
    · have hadmits : g.Admits o root := by
        refine hform.admits hunfolds o hroot ?_
        intro id' n' hitem'
        obtain ⟨rfl, rfl⟩ := Graph.item_inj hitem hitem'
        exact hkind
      exact generate_returns hadmits hbanner m
    · have hcovers : ∀ which, (m.get which).Covers g root :=
        fun which => ⟨id, n, hitem, hheld which⟩
      exact ⟨banner ++ "\n", by rw [generate_of_covers hroot hcovers hbanner]⟩

/-- A trip has stops and a mode of travel, and stops belong to trips. -/
def trip : Node :=
  ⟨.interface [⟨some "stops", .node 1, true, false, false⟩,
    ⟨some "mode", .node 5, true, false, false⟩,
    ⟨some "plan", .node 8, false, false, true⟩] [.node 7], some "trip", none⟩

/-- Trips and what belongs to them. -/
def tripGraph : Graph := ⟨#[
  trip,
  ⟨.array (.node 2), none, none⟩,
  ⟨.union [.node 3, .node 4], none, none⟩,
  ⟨.interface [⟨some "trip", .node 0, true, false, false⟩] [], some "stay", none⟩,
  ⟨.tuple [.node 6, .node 6], some "leg", none⟩,
  ⟨.enum [⟨some "Walk", .node 9⟩, ⟨none, .node 6⟩], some "mode", none⟩,
  ⟨.string, some "place", none⟩,
  ⟨.interface [] [], some "journey", none⟩,
  ⟨.intersection [.node 7, .node 3], none, none⟩,
  ⟨.literal (.str "walk"), none, none⟩]⟩

/-- Legs have been visited by the pass for aliases, and journeys by that for
interfaces. -/
def tripMemo : Memo := ⟨⟨[4], ["leg"]⟩, ⟨[7], ["journey"]⟩, .empty⟩

/-- A trip leads back to itself, and parts of its file have been written before. -/
theorem tripGraph_returns :
    tripGraph.Unfolds ∧ tripGraph.WellFormed (.node 0) ∧
      tripGraph.item (.node 0) = .node 0 trip ∧ trip.hasName = true ∧
      Options.unbannered.BannerFits ∧ trip.kind ≠ .bare ∧
      ((∃ text, (generate tripGraph .unbannered (.node 0) tripMemo).result = .ok text) ↔
        trip.kind ≠ .bare ∨ ∀ which, (tripMemo.get which).holds 0 trip = true) := by
  have hunfolds : tripGraph.Unfolds := Graph.unfolds_of_forall_lt (by decide)
  have hform : tripGraph.WellFormed (.node 0) := Graph.wellFormed_of_forall_fits (by decide) _
  have hbanner : Options.unbannered.BannerFits := .inr rfl
  exact ⟨hunfolds, hform, rfl, rfl, hbanner, by decide,
    generate_returns_iff_of_wellFormed _ _ _ _ _ _ hunfolds hform rfl rfl hbanner⟩

/-- A thing of no type. -/
def thingGraph : Graph := ⟨#[⟨.bare, some "thing", none⟩]⟩

/-- A root of no type is refused, although it has a name and no children that could
be wrong. -/
theorem thingGraph_refused :
    thingGraph.Unfolds ∧ thingGraph.WellFormed (.node 0) ∧
      rootName thingGraph (.node 0) = .ok "thing" ∧ Options.unbannered.BannerFits ∧
      (generate thingGraph .unbannered (.node 0) .empty).result =
        .error (.unsupported (.node .bare (some "thing"))) ∧
      ¬ ∃ text, (generate thingGraph .unbannered (.node 0) .empty).result = .ok text := by
  have hrefused : (generate thingGraph .unbannered (.node 0) .empty).result =
      .error (.unsupported (.node .bare (some "thing"))) := rfl
  refine ⟨Graph.unfolds_of_forall_lt (by decide), Graph.wellFormed_of_forall_fits (by decide) _,
    rfl, .inr rfl, hrefused, ?_⟩
  rintro ⟨text, htext⟩
  rw [hrefused] at htext
  contradiction

end SchemaDecls
