import SchemaDecls.Proofs.Batch
import SchemaDecls.Proofs.Success

/-!
# The order of a batch

Which file of a batch has the declaration of a shared node depends on the order
of the roots, since the first file that comes to it takes it.  All files
together do not depend on it, provided that names tell nodes apart and that all
named interfaces are declared (`Session.batch_order_irrelevant`).  The same
holds of what has been visited in the end, and of whether the files are returned
at all.

Where all interfaces are declared, the name of the root has no say in what a
pass does, and a batch of files that are returned is one pass that visits the
roots one after another (`Session.visits_of_returns`).  What it visits and
declares is then known from where it can come to, and that does not depend on
the order.
-/

namespace SchemaDecls

/-- Where all named interfaces are declared, the name of the root does not
matter. -/
theorem Pass.ofSection_eq_of_truthy {o : Options} (h : o.declareReferenced.truthy = true)
    (name name' : Option String) (which : Section) :
    ofSection o name which = ofSection o name' which := by
  cases which with
  | types => rfl
  | enums => rfl
  | interfaces => simp [ofSection, interfaces, declaresInterface, h]

/-- Two passes of a section that start from nothing and have visited the same
nodes have the same declarations and the same names. -/
theorem Visits.perm_of_mem_iff {g : Graph} {o : Options} {name : Option String} {which : Section}
    {cs cs' : List Child} {w w' : Visited} {ds ds' : List Declared}
    (h : Visits g o (Pass.ofSection o name which) cs .empty ds w)
    (h' : Visits g o (Pass.ofSection o name which) cs' .empty ds' w')
    (hids : ∀ id, id ∈ w.ids ↔ id ∈ w'.ids) :
    ds.Perm ds' ∧ w.ids.Perm w'.ids ∧ w.names.Perm w'.names := by
  obtain ⟨ids, htrail, -⟩ := h.trail
  obtain ⟨ids', htrail', -⟩ := h'.trail
  have hdeclared : ds.Perm ds' := by
    apply (List.perm_ext_iff_of_nodup h.nodup_declared.of_map h'.nodup_declared.of_map).mpr
    intro d
    rw [h.mem_iff, h'.mem_iff, hids]
  simp only [htrail.ids_eq, htrail'.ids_eq, htrail.names_eq, htrail'.names_eq, Visited.empty,
    List.append_nil] at hids ⊢
  have hperm : ids.Perm ids' :=
    (List.perm_ext_iff_of_nodup htrail.nodup htrail'.nodup).mpr hids
  exact ⟨hdeclared, hperm, hperm.filterMap g.nameOf?⟩

/-! ## Batches that return -/

namespace Session

/-- Every request is answered by a text. -/
def Returns (s : Session) (requests : List Request) : Prop :=
  ∀ answer ∈ s.run requests, ∃ text, answer.1 = .ok (.text text)

/-- The declarations that the files have in one of their sections. -/
def declarations (s : Session) (which : Section) (requests : List Request) : List Declared :=
  (s.files requests).flatMap fun f => f.declarations.get which

variable {s : Session} {root : Child} {roots : List Child} {rest : List Request}

theorem returns_cons {request : Request} :
    s.Returns (request :: rest) ↔
      (∃ text, (s.step request).1 = .ok (.text text)) ∧ (s.step request).2.Returns rest :=
  List.forall_mem_cons

theorem returns_of_all {requests : List Request}
    (h : (s.run requests).all (fun answer => (replyText? answer.1).isSome) = true) :
    s.Returns requests := by
  intro answer hanswer
  obtain ⟨text, htext⟩ := Option.isSome_iff_exists.mp (List.all_eq_true.mp h answer hanswer)
  refine ⟨text, ?_⟩
  unfold replyText? at htext
  split at htext
  next _ heq => rw [heq, Option.some.inj htext]
  next => contradiction

theorem declarations_generate_cons {which : Section} {d : Declarations} {banner : String}
    (hrun : (runPasses s.graph s.options root s.memo).result = .ok d)
    (hbanner : bannerText s.options = .ok banner) :
    s.declarations which (.generate root :: rest) =
      d.get which ++ (s.step (.generate root)).2.declarations which rest := by
  have hfile : s.file? (.generate root) = some ⟨s.options, banner, d⟩ := by
    simp [file?, hrun, hbanner, Except.toOption]
  simp [declarations, files, hfile]

/-- Each root of a batch that returns is a node with a name, and the banner can
be written. -/
theorem rootName_of_returns (h : s.Returns (roots.map .generate)) (hroot : root ∈ roots) :
    ∃ name banner, rootName s.graph root = .ok name ∧ bannerText s.options = .ok banner := by
  induction roots generalizing s with
  | nil => contradiction
  | cons first rest ih =>
      obtain ⟨⟨text, htext⟩, hlater⟩ := returns_cons.mp h
      rcases List.mem_cons.mp hroot with rfl | hroot
      · obtain ⟨banner, d, hbanner, hrun, -, -⟩ := generate_eq_ok (ofRun_eq_ok htext)
        obtain ⟨name, hname, -⟩ := runPasses_eq_ok hrun
        exact ⟨name, banner, hname, hbanner⟩
      · exact ih (s := (s.step (.generate first)).2) hlater hroot

/-- A batch returns if nothing stands in the way of its files, whatever has been
visited before. -/
theorem returns_of_admits {banner : String} (hbanner : bannerText s.options = .ok banner)
    (h : ∀ root ∈ roots, s.graph.Admits s.options root) : s.Returns (roots.map .generate) := by
  induction roots generalizing s with
  | nil => simp [Returns, run]
  | cons root rest ih =>
      obtain ⟨hfirst, hrest⟩ := List.forall_mem_cons.mp h
      obtain ⟨text, htext⟩ := generate_returns hfirst hbanner s.memo
      refine returns_cons.mpr ⟨⟨text, ?_⟩, ih (s := (s.step (.generate root)).2) hbanner hrest⟩
      exact congrArg (Except.map Reply.text) htext

/-- Where all named interfaces are declared, a batch that returns is one pass
over all of its roots. -/
theorem visits_of_returns (hall : s.options.declareReferenced.truthy = true)
    (h : s.Returns (roots.map .generate)) (which : Section) :
    Visits s.graph s.options (Pass.ofSection s.options none which) roots (s.memo.get which)
      (s.declarations which (roots.map .generate))
      ((s.after (roots.map .generate)).memo.get which) := by
  induction roots generalizing s with
  | nil => exact .nil
  | cons root rest ih =>
      obtain ⟨⟨text, htext⟩, hlater⟩ := returns_cons.mp h
      obtain ⟨banner, d, hbanner, hrun, hmemo, -⟩ := generate_eq_ok (ofRun_eq_ok htext)
      obtain ⟨name, -, hvisits⟩ := runPasses_visits hrun
      have hfirst := hvisits which
      rw [Pass.ofSection_eq_of_truthy hall (some name) none, ← hmemo] at hfirst
      rw [List.map_cons, declarations_generate_cons hrun hbanner]
      exact hfirst.append (ih (s := (s.step (.generate root)).2) hall hlater)

theorem inBatch_of_mem_generate {request : Request} (h : request ∈ roots.map .generate) :
    request.InBatch := by
  obtain ⟨root, -, rfl⟩ := List.mem_map.mp h
  trivial

/-! ## Batches in another order -/

section

variable {g : Graph} {o : Options} {which : Section}

theorem start_visits (hall : o.declareReferenced.truthy = true)
    (h : (start g o).Returns (roots.map .generate)) (which : Section) :
    Visits g o (Pass.ofSection o none which) roots .empty
      ((start g o).declarations which (roots.map .generate))
      (((start g o).after (roots.map .generate)).memo.get which) := by
  have hvisits := visits_of_returns (s := start g o) hall h which
  have hempty : (start g o).memo.get which = .empty := Memo.get_empty which
  rwa [hempty] at hvisits

/-- What has been visited behind a batch that returns is what can be come to from
its roots. -/
theorem mem_ids_iff_of_returns (hnames : g.NamesDistinct fun _ => True)
    (hall : o.declareReferenced.truthy = true)
    (h : (start g o).Returns (roots.map .generate)) {id : NodeId} :
    id ∈ (((start g o).after (roots.map .generate)).memo.get which).ids ↔
      ∃ root ∈ roots, which.Reaches g root id := by
  apply (start_visits hall h which).mem_iff_reaches
  intro a b name _ _
  exact hnames a b name trivial trivial

/-- Nothing stands in the way of the files of a batch that returns. -/
theorem admits_of_returns (hnames : g.NamesDistinct fun _ => True)
    (hall : o.declareReferenced.truthy = true)
    (h : (start g o).Returns (roots.map .generate)) (hroot : root ∈ roots) : g.Admits o root := by
  obtain ⟨name, banner, hname, -⟩ := rootName_of_returns h hroot
  refine ⟨name, hname, ?_⟩
  intro which id hid
  have hmem := (mem_ids_iff_of_returns hnames hall h).mpr ⟨root, hroot, hid⟩
  rw [Pass.ofSection_eq_of_truthy hall (some name) none]
  exact (start_visits hall h which).admits hmem List.not_mem_nil

/-- A batch that returns does so in any other order. -/
theorem returns_of_perm {roots' : List Child} (hnames : g.NamesDistinct fun _ => True)
    (hall : o.declareReferenced.truthy = true) (hperm : roots.Perm roots')
    (h : (start g o).Returns (roots.map .generate)) :
    (start g o).Returns (roots'.map .generate) := by
  cases roots' with
  | nil => simp [Returns, run]
  | cons root rest =>
      have hroot := hperm.mem_iff.mpr List.mem_cons_self
      obtain ⟨-, banner, -, hbanner⟩ := rootName_of_returns h hroot
      apply returns_of_admits hbanner
      intro other hother
      exact admits_of_returns hnames hall h (hperm.mem_iff.mpr hother)

end

/-- The two batches come to the same: their answers are the texts of their files,
the files have the same declarations in each of the sections, and the passes have
visited the same nodes and the same names. -/
structure ComesToSame (s : Session) (requests requests' : List Request) : Prop where
  texts_eq : s.texts requests = (s.files requests).map File.text
  texts_eq' : s.texts requests' = (s.files requests').map File.text
  declarations : ∀ which,
    (s.declarations which requests).Perm (s.declarations which requests')
  ids : ∀ which,
    ((s.after requests).memo.get which).ids.Perm ((s.after requests').memo.get which).ids
  names : ∀ which,
    ((s.after requests).memo.get which).names.Perm ((s.after requests').memo.get which).names

/-- If a batch returns, so does every batch of the same roots in another order,
and the two come to the same.  Names must tell the nodes of the graph apart, and
all named interfaces must be declared. -/
theorem batch_order_irrelevant (g : Graph) (o : Options) (roots roots' : List Child)
    (hnames : g.NamesDistinct fun _ => True) (hall : o.declareReferenced.truthy = true)
    (hperm : roots.Perm roots') (h : (start g o).Returns (roots.map .generate)) :
    (start g o).Returns (roots'.map .generate) ∧
      (start g o).ComesToSame (roots.map .generate) (roots'.map .generate) := by
  have h' := returns_of_perm hnames hall hperm h
  have hids : ∀ which id, id ∈ (((start g o).after (roots.map .generate)).memo.get which).ids ↔
      id ∈ (((start g o).after (roots'.map .generate)).memo.get which).ids := by
    intro which id
    rw [mem_ids_iff_of_returns hnames hall h, mem_ids_iff_of_returns hnames hall h']
    simp only [hperm.mem_iff]
  have hsame := fun which =>
    (start_visits hall h which).perm_of_mem_iff (start_visits hall h' which) (hids which)
  exact ⟨h', texts_eq fun _ => inBatch_of_mem_generate, texts_eq fun _ => inBatch_of_mem_generate,
    fun which => (hsame which).1, fun which => (hsame which).2.1, fun which => (hsame which).2.2⟩

end Session

/-- The trees and the forest, each the root of a file: the file that comes first
has all declarations, for the one leads to the other. -/
theorem treeGraph_order_irrelevant :
    treeGraph.NamesDistinct (fun _ => True) ∧
      Options.unbannered.declareReferenced.truthy = true ∧
      [Child.node 0, .node 1].Perm [.node 1, .node 0] ∧
      (Session.start treeGraph .unbannered).Returns [.generate (.node 0), .generate (.node 1)] ∧
      (Session.start treeGraph .unbannered).texts [.generate (.node 0), .generate (.node 1)] =
        [treeFile, "\n"] ∧
      (Session.start treeGraph .unbannered).texts [.generate (.node 1), .generate (.node 0)] =
        [treeFile, "\n"] ∧
      (Session.start treeGraph .unbannered).Returns [.generate (.node 1), .generate (.node 0)] ∧
      (Session.start treeGraph .unbannered).ComesToSame
        [.generate (.node 0), .generate (.node 1)] [.generate (.node 1), .generate (.node 0)] := by
  have hnames : treeGraph.NamesDistinct (fun _ => True) :=
    Graph.namesDistinct_of_forall_lt (by decide)
  have hall : Options.unbannered.declareReferenced.truthy = true := by decide
  have hperm : [Child.node 0, .node 1].Perm [.node 1, .node 0] := .swap _ _ _
  have hreturns : (Session.start treeGraph .unbannered).Returns
      [.generate (.node 0), .generate (.node 1)] :=
    Session.returns_of_all (by decide +kernel)
  exact ⟨hnames, hall, hperm, hreturns, by decide +kernel, by decide +kernel,
    Session.batch_order_irrelevant treeGraph .unbannered _ _ hnames hall hperm hreturns⟩

end SchemaDecls
