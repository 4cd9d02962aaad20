import SchemaDecls.Proofs.Failing
import SchemaDecls.Proofs.History
import SchemaDecls.Proofs.Omissions
import SchemaDecls.Proofs.WellFormed

/-!
# Super-types that are overlooked

A file that cannot be written fails for a fault of the schema: something is no node of
a known kind, or has no name although it needs one (`Failure.IsSchemaFault`).  There is
one exception.  The declaration of an interface takes its super-types for nodes.  It
relies on the pass for aliases, which goes into all super-types first and would have
failed for one that is none.

The passes remember what they have visited each for itself, and so the pass for
interfaces can come to an interface that the pass for aliases has passed over.  A file
fails in the other way exactly if its pass for interfaces adds such an interface and
its first super-type that cannot be written is no node
(`Session.isSchemaFault_iff`).  This takes a name that two nodes bear, or a file that
has failed before.  For where neither is the case, the pass for aliases leaves nothing
open: whatever it can come to from a node that it has visited, it has visited, too
(`Visited.Closed`).
-/

namespace SchemaDecls

/-- The failure is for a fault of the schema: something is no node of a known kind, or
has no name although it needs one. -/
def Failure.IsSchemaFault : Failure → Prop
  | .unsupported _ | .unnamed _ _ => True
  | _ => False

theorem rootName_eq_error {g : Graph} {root : Child} {f : Failure}
    (h : rootName g root = .error f) : f.IsSchemaFault := by
  unfold rootName at h
  split at h
  · obtain rfl := Except.error.inj h
    trivial
  · split at h
    · contradiction
    · obtain rfl := Except.error.inj h
      trivial

/-- A declaration fails for a fault of the schema, or for a super-type that is no
node. -/
theorem Declaration.Fault.isSchemaFault_or {g : Graph} {n : Node} {f : Failure}
    (h : Fault g n f) : f.IsSchemaFault ∨ ∃ v, f = .superTypeNotNode v ∧ StraySuperType g n v := by
  cases h with
  | straySuperType hstray => exact .inr ⟨_, rfl, hstray⟩
  | _ => exact .inl trivial

theorem Declaration.StraySuperType.kind {g : Graph} {n : Node} {v : Value}
    (h : StraySuperType g n v) : n.kind = .interface := by
  obtain ⟨properties, before, c, after, hshape, -⟩ := h
  simp [Node.kind, hshape, Shape.kind]

/-- The pass for interfaces declares a node before it goes on to its children. -/
theorem Pass.before_eq_nil_of_interfaces (o : Options) (rootName : Option String) (n : Node)
    (plan : Plan) (h : (ofSection o rootName .interfaces).plan n = some plan) :
    plan.before = [] := by
  obtain ⟨shape, name, comment⟩ := n
  cases shape <;> simp [ofSection, interfaces] at h <;> simp [← h]

namespace Session

/-- Writing the file of the root, the pass for interfaces adds a node that it is to
declare and of whose super-types the first one that cannot be written is this value. -/
def Overlooks (s : Session) (root : Child) (id : NodeId) (v : Value) : Prop :=
  ∃ rootText n, rootName s.graph root = .ok rootText ∧ s.Adds root .interfaces id ∧
    s.graph.get? id = some n ∧ Section.interfaces.Declares s.options (some rootText) n ∧
    Declaration.StraySuperType s.graph n v

variable {s : Session} {root : Child} {id : NodeId} {v : Value} {f : Failure}

/-- What writing the file of a root adds is reached from the root. -/
theorem Adds.reaches {which : Section} (h : s.Adds root which id) :
    which.Reaches s.graph root id := by
  obtain ⟨ids, htrail, hreached⟩ := generate_growsWithin s.graph s.options root s.memo which
  exact hreached id (htrail.mem_iff.mpr h)

/-- A request for a file is answered by a text or by a failure. -/
theorem step_generate_cases (s : Session) (root : Child) :
    (∃ text, (s.step (.generate root)).1 = .ok (.text text)) ∨
      ∃ f, (s.step (.generate root)).1 = .error f := by
  show (∃ text, (generate s.graph s.options root s.memo).result.map Reply.text = _) ∨ _
  cases hends : (generate s.graph s.options root s.memo).result with
  | ok text => exact .inl ⟨text, rfl⟩
  | error f => exact .inr ⟨f, congrArg (Except.map Reply.text) hends⟩

theorem runPasses_of_step_eq_error (hbanner : s.options.BannerFits)
    (h : (s.step (.generate root)).1 = .error f) :
    (runPasses s.graph s.options root s.memo).result = .error f := by
  obtain ⟨banner, hbanner⟩ := hbanner.exists_bannerText
  exact generate_eq_error hbanner (map_eq_error h)

/-! ## One file -/

/-- A file fails for a fault of the schema or for a super-type that it has
overlooked. -/
theorem isSchemaFault_or_overlooks (hunfolds : s.graph.Unfolds)
    (h : (runPasses s.graph s.options root s.memo).result = .error f) :
    f.IsSchemaFault ∨ ∃ id v, f = .superTypeNotNode v ∧ s.Overlooks root id v := by
  rcases runPasses_eq_error h with ⟨hroot, -⟩ | ⟨rootText, which, hroot, -, hfails, -⟩
  · exact .inl (rootName_eq_error hroot)
  rcases hfails.cause with ⟨offender, rfl⟩ | ⟨id, n, hw, hv, hn, hdeclares, hends⟩
  · exact .inl trivial
  rcases (Declaration.ofNode_eq_error hunfolds hends).isSchemaFault_or with hfault | ⟨v, rfl, hstray⟩
  · exact .inl hfault
  have hkind := hstray.kind
  have hrule := (Pass.rule_of_declares hdeclares).2
  cases which with
  | types => exact absurd hkind hrule.2.1
  | enums =>
      have henum : n.kind = .enum := hrule
      rw [hkind] at henum
      contradiction
  | interfaces =>
      rw [← step_generate_memo] at hw
      exact .inr ⟨id, v, rfl, rootText, n, hroot, ⟨hw, hv⟩, hn, hrule, hstray⟩

/-- The pass for aliases has come to its end before a super-type is overlooked. -/
theorem Overlooks.visits_types (h : s.Overlooks root id v) :
    ∃ rootText ds, Visits s.graph s.options (Pass.ofSection s.options (some rootText) .types) [root]
      (s.memo.get .types) ds ((s.step (.generate root)).2.memo.get .types) := by
  obtain ⟨rootText, n, hroot, ⟨hw, hv⟩, -⟩ := h
  rw [step_generate_memo] at hw ⊢
  cases hends : (runPasses s.graph s.options root s.memo).result with
  | ok d =>
      obtain ⟨rootText, -, hvisits⟩ := runPasses_visits hends
      exact ⟨rootText, _, hvisits .types⟩
  | error f =>
      rcases runPasses_eq_error hends with ⟨-, hmemo⟩ | ⟨rootText, which, -, hearlier, -, hlater⟩
      · rw [hmemo] at hw
        exact absurd hw hv
      · cases which with
        | types =>
            rw [hlater .interfaces (by decide)] at hw
            exact absurd hw hv
        | interfaces => exact ⟨rootText, hearlier .types (by decide)⟩
        | enums => exact ⟨rootText, hearlier .types (by decide)⟩

/-- The file fails for a super-type that it overlooks. -/
theorem Overlooks.eq_superTypeNotNode (h : s.Overlooks root id v)
    (hends : (runPasses s.graph s.options root s.memo).result = .error f) :
    f = .superTypeNotNode v := by
  obtain ⟨rootText, n, hroot, ⟨hw, hv⟩, hn, hrule, hstray⟩ := h
  have hwritten := Declaration.ofNode_of_straySuperType (o := s.options) hstray
  have hbare : n.kind ≠ .bare := by rw [hstray.kind]; decide
  have hdeclares : (Pass.ofSection s.options (some rootText) .interfaces).declares n = true :=
    (Pass.declares_iff _ _ hbare).mpr hrule
  rw [step_generate_memo] at hw
  rcases runPasses_eq_error hends with ⟨hroot', -⟩ | ⟨name, which, hname, hearlier, hfails, hlater⟩
  · rw [hroot] at hroot'
    contradiction
  rw [hroot] at hname
  obtain rfl := Except.ok.inj hname
  cases which with
  | types =>
      rw [hlater .interfaces (by decide)] at hw
      exact absurd hw hv
  | interfaces =>
      have hfirst := Pass.before_eq_nil_of_interfaces s.options (some rootText)
      rcases hfails.declared hfirst hw hv hn hdeclares with ⟨text, htext⟩ | herror
      · rw [hwritten] at htext
        contradiction
      · rw [hwritten] at herror
        exact (Except.error.inj herror).symm
  | enums =>
      obtain ⟨ds, hvisits⟩ := hearlier .interfaces (by decide)
      obtain ⟨text, htext⟩ := hvisits.exists_text hw hv hn hdeclares
      rw [hwritten] at htext
      contradiction

/-- Nothing is overlooked where all super-types that the root leads to are nodes. -/
theorem not_overlooks_of_hasNode
    (h : ∀ id n properties superTypes, Section.types.Reaches s.graph root id →
      s.graph.get? id = some n → n.shape = .interface properties superTypes →
      ∀ c ∈ superTypes, s.graph.HasNode c) : ¬ s.Overlooks root id v := by
  rintro ⟨-, n, -, hadds, hn, -, properties, before, c, after, hshape, hvalue, -⟩
  obtain ⟨super, m, hitem⟩ := h id n _ _ hadds.reaches.types hn hshape c (by simp)
  rw [hvalue] at hitem
  contradiction

/-! ## Whole batches -/

variable {requests : List Request}

/-- One of the requests is for a file that fails. -/
def SomeFails (s : Session) (requests : List Request) : Prop :=
  s.AtSome requests fun t root => ∃ f, (t.step (.generate root)).1 = .error f

/-- Files that are returned leave no way open. -/
theorem closed_after (hbatch : ∀ r ∈ requests, r.InBatch) (hreturned : ¬ s.SomeFails requests)
    {which : Section} (hs : (s.memo.get which).Closed which s.graph) :
    ((s.after requests).memo.get which).Closed which s.graph := by
  induction requests generalizing s with
  | nil => exact hs
  | cons request rest ih =>
      obtain ⟨hfirst, hrest⟩ := List.forall_mem_cons.mp hbatch
      unfold SomeFails at hreturned
      rw [atSome_cons_iff, not_or] at hreturned
      have hstep : ((s.step request).2.memo.get which).Closed which s.graph := by
        cases request with
        | setOptions options => exact hs
        | generate root =>
            rcases step_generate_cases s root with ⟨text, htext⟩ | hfails
            · obtain ⟨rootText, -, hvisits⟩ := visits_of_step_generate htext
              obtain ⟨ds, hvisits⟩ := hvisits which
              exact hvisits.closed_of_closed hs
            · exact absurd ⟨root, rfl, hfails⟩ hreturned.1
        | _ => exact hfirst.elim
      have hlater := ih (s := (s.step request).2) hrest hreturned.2
      rw [graph_step hfirst] at hlater
      exact hlater hstep

/-- A super-type is overlooked only where a file has failed before, or where two of the
nodes that the roots lead to bear one name. -/
theorem Overlooks.someFails_or_not_namesDistinct {g : Graph} {o : Options}
    (hbatch : ∀ r ∈ requests, r.InBatch)
    (h : ((start g o).after requests).Overlooks root id v) :
    (start g o).SomeFails requests ∨ ¬ g.NamesDistinct fun other =>
      ∃ r, .generate r ∈ requests ++ [.generate root] ∧ Section.types.Reaches g r other := by
  by_cases hfailed : (start g o).SomeFails requests
  · exact .inl hfailed
  refine .inr ?_
  intro hdistinct
  have hgraph : ((start g o).after requests).graph = g := graph_after hbatch
  obtain ⟨rootText, ds, hvisits⟩ := h.visits_types
  obtain ⟨-, n, -, hadds, hn, -, properties, before, c, after, hshape, hvalue, -⟩ := h
  rw [hgraph] at hvisits hn hvalue
  -- What the pass for aliases has visited by the end of the file is closed.
  have hstart : ((start g o).memo.get .types).Closed .types (start g o).graph := by
    rw [show (start g o).memo.get .types = .empty from rfl]
    exact Visited.closed_empty
  have hclosed := hvisits.closed_of_closed (closed_after hbatch hfailed hstart)
  -- And it lies within what the roots lead to.
  have hall : ∀ r ∈ requests ++ [.generate root], r.InBatch := by
    simpa [or_imp, forall_and] using ⟨hbatch, trivial⟩
  obtain ⟨ids, htrail, hreached⟩ := after_growsWithin (s := start g o) hall .types
  rw [after_append] at htrail
  have hnodes : ∀ other ∈ (((start g o).after requests).step (.generate root)).2.memo.types.ids,
      ∃ r, .generate r ∈ requests ++ [.generate root] ∧ Section.types.Reaches g r other := by
    intro other hother
    exact hreached other (htrail.mem_iff.mpr ⟨hother, List.not_mem_nil⟩)
  have hreach := hadds.reaches.types
  rw [hgraph] at hreach
  have hmem := htrail.mem_of_reaches hclosed hnodes hdistinct hreach
    (hvisits.covers (List.mem_singleton_self root))
    fun other hother => ⟨root, by simp, hother⟩
  have hsuper : Section.types.Follows n.shape c := by
    rw [hshape]
    exact .inr (by simp)
  obtain ⟨super, m, hitem, -⟩ := hclosed id n hmem hn c hsuper
  rw [hvalue] at hitem
  contradiction

/-- A file that fails in a batch fails for a fault of the schema, unless it overlooks a
super-type.  It then fails for that super-type, and there has been a failure before or
there are two nodes of one name.  Unnamed nodes must not nest without an end, and the
banner must be a text or count as false. -/
theorem isSchemaFault_iff (g : Graph) (o : Options) (requests : List Request) (root : Child)
    (f : Failure) (hbatch : ∀ r ∈ requests, r.InBatch) (hunfolds : g.Unfolds)
    (hbanner : ((start g o).after requests).options.BannerFits)
    (hfails : (((start g o).after requests).step (.generate root)).1 = .error f) :
    (f.IsSchemaFault ↔ ¬ ∃ id v, ((start g o).after requests).Overlooks root id v) ∧
      ∀ id v, ((start g o).after requests).Overlooks root id v →
        f = .superTypeNotNode v ∧
          ((start g o).SomeFails requests ∨ ¬ g.NamesDistinct fun other =>
            ∃ r, .generate r ∈ requests ++ [.generate root] ∧
              Section.types.Reaches g r other) := by
  have hgraph : ((start g o).after requests).graph = g := graph_after hbatch
  have hends := runPasses_of_step_eq_error hbanner hfails
  rw [← hgraph] at hunfolds
  refine ⟨⟨?_, ?_⟩, ?_⟩
  · rintro hfault ⟨id, v, hoverlooks⟩
    rw [hoverlooks.eq_superTypeNotNode hends] at hfault
    exact hfault
  · intro hnone
    rcases isSchemaFault_or_overlooks hunfolds hends with hfault | ⟨id, v, -, hoverlooks⟩
    · exact hfault
    · exact absurd ⟨id, v, hoverlooks⟩ hnone
  · intro id v hoverlooks
    exact ⟨hoverlooks.eq_superTypeNotNode hends, hoverlooks.someFails_or_not_namesDistinct hbatch⟩

end Session

/-- A pair of texts that are called items, and an interface of that name. -/
def pairGraph : Graph := ⟨#[
  ⟨.tuple [.node 1, .node 1], some "pair", none⟩,
  ⟨.string, some "item", none⟩,
  ⟨.interface [] [.value .null], some "item", none⟩]⟩

/-- The file of the pair is returned.  The item that extends nothing is then passed over
by the pass for aliases, but not by the one for interfaces, which does not look into
the pair. -/
theorem pairGraph_overlooks :
    (∀ r ∈ [Request.generate (.node 0)], r.InBatch) ∧ pairGraph.Unfolds ∧
      ((Session.start pairGraph .unbannered).after [.generate (.node 0)]).options.BannerFits ∧
      (((Session.start pairGraph .unbannered).after [.generate (.node 0)]).step
        (.generate (.node 2))).1 = .error (.superTypeNotNode .null) ∧
      ((Failure.superTypeNotNode .null).IsSchemaFault ↔ ¬ ∃ id v,
        ((Session.start pairGraph .unbannered).after [.generate (.node 0)]).Overlooks (.node 2)
          id v) ∧
      ∀ id v,
        ((Session.start pairGraph .unbannered).after [.generate (.node 0)]).Overlooks (.node 2)
          id v →
        Failure.superTypeNotNode .null = .superTypeNotNode v ∧
          ((Session.start pairGraph .unbannered).SomeFails [.generate (.node 0)] ∨
            ¬ pairGraph.NamesDistinct fun other =>
              ∃ r, Request.generate r ∈ [.generate (.node 0)] ++ [.generate (.node 2)] ∧
                Section.types.Reaches pairGraph r other) := by
  have hbatch : ∀ r ∈ [Request.generate (.node 0)], r.InBatch := by simp [Request.InBatch]
  have hunfolds : pairGraph.Unfolds := Graph.unfolds_of_forall_lt (by decide)
  have hbanner : ((Session.start pairGraph .unbannered).after
      [.generate (.node 0)]).options.BannerFits := .inr rfl
  have hfails : (((Session.start pairGraph .unbannered).after [.generate (.node 0)]).step
      (.generate (.node 2))).1 = .error (.superTypeNotNode .null) := rfl
  exact ⟨hbatch, hunfolds, hbanner, hfails,
    Session.isSchemaFault_iff _ _ _ _ _ hbatch hunfolds hbanner hfails⟩

/-- An order that extends nothing. -/
def orderSession : Session :=
  .start ⟨#[⟨.interface [] [.value .null], some "order", none⟩]⟩ .unbannered

/-- The first attempt fails for a fault of the schema.  The second does not, as the pass
for aliases remembers the order from the first. -/
theorem orderSession_fails_otherwise :
    orderSession.graph.Unfolds ∧ orderSession.options.BannerFits ∧
      (orderSession.step (.generate (.node 0))).1 = .error (.unsupported (.value .null)) ∧
      ((orderSession.after [.generate (.node 0)]).step (.generate (.node 0))).1 =
        .error (.superTypeNotNode .null) ∧
      ¬ (Failure.superTypeNotNode .null).IsSchemaFault := by
  have hunfolds : orderSession.graph.Unfolds := Graph.unfolds_of_forall_lt (by decide)
  exact ⟨hunfolds, .inr rfl, rfl, rfl, id⟩

end SchemaDecls
