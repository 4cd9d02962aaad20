import SchemaDecls.Proofs.Batch
import SchemaDecls.Proofs.Clashes

/-!
# Roots that no file declares

A batch keeps a name from being declared a second time.  One might think that
the interface that a file is written for is then declared in that file or in an
earlier one.  But what is remembered of a name is that a node of that name has
been visited, and not that it has been declared.  The pass for interfaces visits
nodes that it does not declare: interfaces that are not to be declared in the
file at hand, nodes of other kinds that bear the name, and whatever it has come
to in a file that then fails.  The name is lost to later files.

`Session.root_declared_iff` says exactly when the name of such a root is declared
by the time its file is returned: if the pass for interfaces had not met the name
before, or if some returned file has introduced it in one of its sections
(`Session.Introduces`).  Nothing is lost where all files are returned, all named
interfaces are declared, and only interfaces bear the name
(`Session.root_declared_of_interfaces`).  The batch of `shopSession` loses a name.
-/

namespace SchemaDecls

namespace Session

/-- The names that the files declare. -/
def declaredNames (s : Session) (requests : List Request) : List String :=
  (s.files requests).flatMap fun f => f.declarations.names s.graph

/-- Writing the file of the root adds the node to what the pass of the section
has visited. -/
def Adds (s : Session) (root : Child) (which : Section) (id : NodeId) : Prop :=
  id ∈ ((s.step (.generate root)).2.memo.get which).ids ∧ id ∉ (s.memo.get which).ids

/-- The file of the root is returned, and one of its passes adds a node of this
name that has its declaration in the section of that pass. -/
def Introduces (s : Session) (root : Child) (name : String) : Prop :=
  ∃ f rootText which id n, s.file? (.generate root) = some f ∧
    rootName s.graph root = .ok rootText ∧ s.Adds root which id ∧ s.graph.get? id = some n ∧
    n.name = some name ∧ which.Declares s.options (some rootText) n

/-- Writing the file of the root adds a node of this name to what the pass of the
section has visited. -/
def AddsName (s : Session) (root : Child) (which : Section) (name : String) : Prop :=
  ∃ id, s.Adds root which id ∧ s.graph.nameOf? id = some name

/-- One of the requests is for the file of a root of which this holds when its
turn comes. -/
def AtSome (s : Session) (requests : List Request) (holds : Session → Child → Prop) : Prop :=
  ∃ before root after, requests = before ++ .generate root :: after ∧
    holds (s.after before) root

variable {s : Session} {request : Request} {requests rest : List Request} {root : Child}
  {which : Section} {name : String}

/-! ## One file -/

/-- A file declares the names that it introduces. -/
theorem mem_names_file_iff {f : File} (hfile : s.file? (.generate root) = some f) :
    name ∈ f.declarations.names s.graph ↔ s.Introduces root name := by
  obtain ⟨hrun, -, -⟩ := file?_generate_eq_some hfile
  obtain ⟨rootText, hroot, hvisits⟩ := runPasses_visits hrun
  rw [← step_generate_memo] at hvisits
  unfold Declarations.names Declarations.namesIn
  rw [List.mem_flatMap]
  constructor
  · rintro ⟨which, -, hmem⟩
    obtain ⟨d, hd, hname⟩ := List.mem_filterMap.mp hmem
    obtain ⟨hw, hv, n, hn, hdeclares, -⟩ := (hvisits which).mem_iff.mp hd
    obtain ⟨m, hm, hown⟩ := Graph.nameOf?_eq_some_iff.mp hname
    rw [hn] at hm
    obtain rfl := Option.some.inj hm
    exact ⟨f, rootText, which, d.id, n, hfile, hroot, ⟨hw, hv⟩, hn, hown, hdeclares⟩
  · rintro ⟨_, rootText', which, id, n, -, hroot', ⟨hw, hv⟩, hn, hname, hdeclares⟩
    obtain rfl : rootText = rootText' := Except.ok.inj (hroot.symm.trans hroot')
    have hdeclared := (hvisits which).mem_declared_iff.mpr ⟨hw, hv, n, hn, hdeclares⟩
    obtain ⟨d, hd, rfl⟩ := List.mem_map.mp hdeclared
    exact ⟨which, Section.mem_all which,
      List.mem_filterMap.mpr ⟨d, hd, Graph.nameOf?_eq_some_iff.mpr ⟨n, hn, hname⟩⟩⟩

theorem mem_names_step_iff :
    (∃ f ∈ (s.file? request).toList, name ∈ f.declarations.names s.graph) ↔
      ∃ root, request = .generate root ∧ s.Introduces root name := by
  constructor
  · rintro ⟨f, hf, hmem⟩
    have hfile : s.file? request = some f := by simpa using hf
    cases request with
    | generate root => exact ⟨root, rfl, (mem_names_file_iff hfile).mp hmem⟩
    | _ => contradiction
  · rintro ⟨root, rfl, hintroduces⟩
    obtain ⟨f, -, -, -, -, hfile, -⟩ := id hintroduces
    exact ⟨f, by simp [hfile], (mem_names_file_iff hfile).mpr hintroduces⟩

/-- What the memo of a pass gains in names it gains through the nodes that are
added. -/
theorem mem_names_step_memo_iff (h : request.InBatch) :
    name ∈ ((s.step request).2.memo.get which).names ↔
      name ∈ (s.memo.get which).names ∨
        ∃ root, request = .generate root ∧ s.AddsName root which name := by
  obtain ⟨ids, htrail⟩ := step_grows h which
  rw [htrail.mem_names_iff, or_comm]
  refine or_congr_right ?_
  constructor
  · rintro ⟨id, hid, hname⟩
    cases request with
    | generate root => exact ⟨root, rfl, id, htrail.mem_iff.mp hid, hname⟩
    | setOptions options =>
        have hmem := htrail.mem_iff.mp hid
        exact absurd hmem.1 hmem.2
    | _ => exact h.elim
  · rintro ⟨root, rfl, id, hadds, hname⟩
    exact ⟨id, htrail.mem_iff.mpr hadds, hname⟩

/-! ## Whole batches -/

theorem not_atSome_nil {holds : Session → Child → Prop} : ¬ s.AtSome [] holds := by
  rintro ⟨before, root, after, hsplit, -⟩
  cases before with
  | nil => contradiction
  | cons first before => contradiction

/-- What is said of one of several requests is said of the first or of one of the
others. -/
theorem atSome_cons_iff {holds : Session → Child → Prop} :
    s.AtSome (request :: rest) holds ↔
      (∃ root, request = .generate root ∧ holds s root) ∨ (s.step request).2.AtSome rest holds := by
  constructor
  · rintro ⟨before, root, after, hsplit, hholds⟩
    cases before with
    | nil =>
        obtain ⟨hfirst, -⟩ := List.cons.inj hsplit
        exact .inl ⟨root, hfirst, hholds⟩
    | cons first before =>
        obtain ⟨rfl, hrest⟩ := List.cons.inj hsplit
        exact .inr ⟨before, root, after, hrest, hholds⟩
  · rintro (⟨root, rfl, hholds⟩ | ⟨before, root, after, rfl, hholds⟩)
    · exact ⟨[], root, rest, rfl, hholds⟩
    · exact ⟨request :: before, root, after, rfl, hholds⟩

/-- The files of a batch declare the names that they introduce. -/
theorem mem_declaredNames_iff (h : ∀ r ∈ requests, r.InBatch) :
    name ∈ s.declaredNames requests ↔
      s.AtSome requests fun t root => t.Introduces root name := by
  induction requests generalizing s with
  | nil => simp [declaredNames, files, not_atSome_nil]
  | cons request rest ih =>
      obtain ⟨hfirst, hrest⟩ := List.forall_mem_cons.mp h
      rw [atSome_cons_iff, ← ih (s := (s.step request).2) hrest, ← mem_names_step_iff]
      unfold declaredNames
      rw [files_cons, graph_step hfirst, List.flatMap_append, List.mem_append, List.mem_flatMap]

/-- The pass of a section has the names that it had before the batch and those
that it has met since. -/
theorem mem_names_after_iff (h : ∀ r ∈ requests, r.InBatch) :
    name ∈ ((s.after requests).memo.get which).names ↔
      name ∈ (s.memo.get which).names ∨
        s.AtSome requests fun t root => t.AddsName root which name := by
  induction requests generalizing s with
  | nil => simp [after, not_atSome_nil]
  | cons request rest ih =>
      obtain ⟨hfirst, hrest⟩ := List.forall_mem_cons.mp h
      unfold after
      rw [ih (s := (s.step request).2) hrest, atSome_cons_iff, mem_names_step_memo_iff hfirst,
        or_assoc]

/-! ## The root of a file -/

section

variable {id : NodeId} {n : Node} {text : String}

theorem file?_of_returned (hreturned : (s.step (.generate root)).1 = .ok (.text text)) :
    ∃ f rootText, s.file? (.generate root) = some f ∧ rootName s.graph root = .ok rootText := by
  obtain ⟨banner, d, hbanner, hrun, -, -⟩ := generate_eq_ok (ofRun_eq_ok hreturned)
  obtain ⟨rootText, hroot, -⟩ := runPasses_visits hrun
  exact ⟨⟨s.options, banner, d⟩, rootText, by simp [file?, hrun, hbanner, Except.toOption], hroot⟩

/-- What a returned file adds under the name of its root is the root. -/
theorem eq_root_of_adds (hitem : s.graph.item root = .node id n) (hname : n.name = some name)
    (hreturned : (s.step (.generate root)).1 = .ok (.text text)) {other : NodeId}
    (hadds : s.Adds root which other) (hother : s.graph.nameOf? other = some name) :
    other = id := by
  obtain ⟨hw, hv⟩ := hadds
  obtain ⟨rootText, -, hvisits⟩ := visits_of_step_generate hreturned
  obtain ⟨ds, hvisits⟩ := hvisits which
  obtain ⟨ids, htrail, -⟩ := hvisits.trail
  have hn := Graph.get?_of_item hitem
  cases hheld : (s.memo.get which).holds id n with
  | true =>
      rw [hvisits.eq_of_holds hitem hheld] at hw
      contradiction
  | false =>
      have hmem := htrail.mem_iff.mpr (hvisits.adds_of_not_holds hitem hheld)
      exact htrail.eq_of_nameOf?_eq (htrail.mem_iff.mpr ⟨hw, hv⟩) hmem hother
        (Graph.nameOf?_eq_some_iff.mpr ⟨n, hn, hname⟩)

/-- A returned file for an interface introduces its root exactly if the pass for
interfaces adds it. -/
theorem introduces_root_iff_adds (hitem : s.graph.item root = .node id n)
    (hkind : n.kind = .interface) (hname : n.name = some name)
    (hreturned : (s.step (.generate root)).1 = .ok (.text text)) :
    s.Introduces root name ↔ s.Adds root .interfaces id := by
  have hn := Graph.get?_of_item hitem
  constructor
  · rintro ⟨f, rootText, which, other, m, -, -, hadds, hm, hown, hdeclares⟩
    obtain rfl := eq_root_of_adds hitem hname hreturned hadds
      (Graph.nameOf?_eq_some_iff.mpr ⟨m, hm, hown⟩)
    rw [hn] at hm
    obtain rfl := Option.some.inj hm
    cases which with
    | interfaces => exact hadds
    | types => exact absurd hkind hdeclares.2.1
    | enums =>
        have hnot : n.kind ≠ .enum := by rw [hkind]; decide
        exact absurd hdeclares hnot
  · intro hadds
    obtain ⟨f, rootText, hfile, hroot⟩ := file?_of_returned hreturned
    obtain rfl : rootText = name := by
      simp only [rootName, hitem, hname] at hroot
      exact (Except.ok.inj hroot).symm
    exact ⟨f, rootText, .interfaces, id, n, hfile, hroot, hadds, hn, hname, hkind,
      by simp [Node.hasName, hname], .inl hname⟩

/-- A returned file for an interface introduces its root exactly if the pass for
interfaces had not met the name since the memo was empty. -/
theorem introduces_root_iff (hempty : s.memo = .empty) (hbatch : ∀ r ∈ requests, r.InBatch)
    (hitem : s.graph.item root = .node id n) (hkind : n.kind = .interface)
    (hname : n.name = some name)
    (hreturned : ((s.after requests).step (.generate root)).1 = .ok (.text text)) :
    (s.after requests).Introduces root name ↔
      ¬ s.AtSome requests fun t r => t.AddsName r .interfaces name := by
  have hstart : s.memo.get .interfaces = .empty := by rw [hempty]; exact Memo.get_empty _
  have hmet : name ∈ ((s.after requests).memo.get .interfaces).names ↔
      name ∈ (s.memo.get .interfaces).names ∨
        s.AtSome requests fun t r => t.AddsName r .interfaces name :=
    mem_names_after_iff hbatch
  have hnone : name ∉ (s.memo.get .interfaces).names := by rw [hstart]; exact List.not_mem_nil
  rw [or_iff_right hnone] at hmet
  have hgraph : (s.after requests).graph = s.graph := graph_after hbatch
  obtain ⟨ids, htrail⟩ := after_grows hbatch .interfaces
  rw [hstart] at htrail
  have hn := Graph.get?_of_item hitem
  rw [← hmet, introduces_root_iff_adds (hgraph ▸ hitem) hkind hname hreturned]
  obtain ⟨rootText, -, hvisits⟩ := visits_of_step_generate hreturned
  obtain ⟨ds, hvisits⟩ := hvisits .interfaces
  -- From an empty memo on, a named node that has been visited has left its name.
  have hheld : ((s.after requests).memo.get .interfaces).holds id n = true ↔
      name ∈ ((s.after requests).memo.get .interfaces).names := by
    rw [Visited.holds_iff]
    constructor
    · rintro (hid | ⟨name', hname', hmem⟩)
      · have hown : s.graph.nameOf? id = some name :=
          Graph.nameOf?_eq_some_iff.mpr ⟨n, hn, hname⟩
        exact htrail.mem_names_iff.mpr
          (.inl ⟨id, htrail.mem_iff.mpr ⟨hid, List.not_mem_nil⟩, hown⟩)
      · obtain rfl := Option.some.inj (hname.symm.trans hname')
        exact hmem
    · intro hmem
      exact .inr ⟨name, hname, hmem⟩
  rw [← hheld]
  constructor
  · rintro ⟨hw, hv⟩ hheld
    rw [hvisits.eq_of_holds (hgraph ▸ hitem) hheld] at hw
    exact hv hw
  · intro hnot
    exact hvisits.adds_of_not_holds (hgraph ▸ hitem) (by simpa using hnot)

end

/-- Where all files are returned, all named interfaces are declared and the name
is borne by interfaces only, a root that the pass for interfaces has met has been
introduced. -/
theorem atSome_introduces_of_adds (hbatch : ∀ r ∈ requests, r.InBatch)
    (hreturned : ∀ before other after, requests = before ++ .generate other :: after →
      ∃ text, ((s.after before).step (.generate other)).1 = .ok (.text text))
    (hall : ∀ before other after, requests = before ++ .generate other :: after →
      (s.after before).options.declareReferenced.truthy = true)
    (hinterfaces : ∀ id n, s.graph.get? id = some n → n.name = some name → n.kind = .interface)
    (hadds : s.AtSome requests fun t r => t.AddsName r .interfaces name) :
    s.AtSome requests fun t r => t.Introduces r name := by
  obtain ⟨before, other, after, hsplit, id, hadds, hname⟩ := hadds
  refine ⟨before, other, after, hsplit, ?_⟩
  have hgraph : (s.after before).graph = s.graph := by
    apply graph_after
    intro r hr
    apply hbatch
    rw [hsplit]
    exact List.mem_append_left _ hr
  obtain ⟨text, hreply⟩ := hreturned before other after hsplit
  obtain ⟨n, hn, hown⟩ := Graph.nameOf?_eq_some_iff.mp hname
  obtain ⟨f, rootText, hfile, hroot⟩ := file?_of_returned hreply
  exact ⟨f, rootText, .interfaces, id, n, hfile, hroot, hadds, hn, hown,
    hinterfaces id n (hgraph ▸ hn) hown, by simp [Node.hasName, hown],
    .inr (hall before other after hsplit)⟩

/-! ## What becomes of a root -/

theorem declaredNames_append (hbatch : ∀ r ∈ requests, r.InBatch) :
    s.declaredNames (requests ++ rest) =
      s.declaredNames requests ++ (s.after requests).declaredNames rest := by
  unfold declaredNames
  rw [files_append, List.flatMap_append, graph_after hbatch]

theorem mem_declaredNames_singleton_iff :
    name ∈ s.declaredNames [.generate root] ↔ s.Introduces root name := by
  have hiff : (∃ other, Request.generate root = .generate other ∧ s.Introduces other name) ↔
      s.Introduces root name := by
    constructor
    · rintro ⟨other, hsame, hintroduces⟩
      obtain rfl := Request.generate.inj hsame
      exact hintroduces
    · intro hintroduces
      exact ⟨root, rfl, hintroduces⟩
  rw [← hiff, ← mem_names_step_iff]
  simp [declaredNames, files]

/-- Whether the name of an interface is declared by the time that its own file is
returned.  It is if the pass for interfaces had not met the name since the memo
was empty; and otherwise only if some file before has introduced it. -/
theorem root_declared_iff (s : Session) (requests : List Request) (root : Child) (id : NodeId)
    (n : Node) (name text : String) (hempty : s.memo = .empty)
    (hbatch : ∀ r ∈ requests, r.InBatch) (hitem : s.graph.item root = .node id n)
    (hkind : n.kind = .interface) (hname : n.name = some name)
    (hreturned : ((s.after requests).step (.generate root)).1 = .ok (.text text)) :
    s.texts (requests ++ [.generate root]) =
        (s.files (requests ++ [.generate root])).map File.text ∧
      (∀ f ∈ s.files (requests ++ [.generate root]), ∀ which, ∀ d ∈ f.declarations.get which,
        s.graph.DeclarationAt f.options d.id d.text) ∧
      (name ∈ s.declaredNames (requests ++ [.generate root]) ↔
        ¬ s.AtSome requests (fun t r => t.AddsName r .interfaces name) ∨
          s.AtSome requests fun t r => t.Introduces r name) := by
  have hall : ∀ r ∈ requests ++ [.generate root], r.InBatch := by
    simpa [or_imp, forall_and] using ⟨hbatch, trivial⟩
  refine ⟨texts_eq hall, ?_, ?_⟩
  · intro f hf which d hd
    exact (declared_of_mem_files hall hf hd).1
  · rw [declaredNames_append hbatch, List.mem_append, mem_declaredNames_iff hbatch,
      mem_declaredNames_singleton_iff,
      introduces_root_iff hempty hbatch hitem hkind hname hreturned, or_comm]

/-- An interface is declared by the time that its own file is returned, where all
files before were returned, all named interfaces were to be declared, and its name
is borne by interfaces only. -/
theorem root_declared_of_interfaces {id : NodeId} {n : Node} {text : String}
    (hempty : s.memo = .empty) (hbatch : ∀ r ∈ requests, r.InBatch)
    (hitem : s.graph.item root = .node id n) (hkind : n.kind = .interface)
    (hname : n.name = some name)
    (hfile : ((s.after requests).step (.generate root)).1 = .ok (.text text))
    (hreturned : ∀ before other after, requests = before ++ .generate other :: after →
      ∃ text, ((s.after before).step (.generate other)).1 = .ok (.text text))
    (hall : ∀ before other after, requests = before ++ .generate other :: after →
      (s.after before).options.declareReferenced.truthy = true)
    (hinterfaces : ∀ id n, s.graph.get? id = some n → n.name = some name → n.kind = .interface) :
    name ∈ s.declaredNames (requests ++ [.generate root]) := by
  rw [declaredNames_append hbatch, List.mem_append, mem_declaredNames_iff hbatch,
    mem_declaredNames_singleton_iff, introduces_root_iff hempty hbatch hitem hkind hname hfile]
  by_cases hmet : s.AtSome requests fun t r => t.AddsName r .interfaces name
  · exact .inl (atSome_introduces_of_adds hbatch hreturned hall hinterfaces hmet)
  · exact .inr hmet

end Session

/-- A customer with an address. -/
def customer : Node :=
  ⟨.interface [⟨some "address", .node 2, true, false, false⟩] [], some "customer", none⟩

/-- An order and its customer.  Of a file only the root is to be declared. -/
def shopSession : Session where
  graph := ⟨#[
    ⟨.interface [⟨some "customer", .node 1, true, false, false⟩] [], some "order", none⟩,
    customer,
    ⟨.string, none, none⟩]⟩
  options := Options.unbannered.set .declareReferenced (.bool false)
  memo := .empty

theorem shopSession_root_declared_iff :
    (shopSession.memo = .empty ∧ (∀ r ∈ [Request.generate (.node 0)], r.InBatch) ∧
        shopSession.graph.item (.node 1) = .node 1 customer ∧ customer.kind = .interface ∧
        customer.name = some "customer" ∧
        ((shopSession.after [.generate (.node 0)]).step (.generate (.node 1))).1 =
          .ok (.text "\n")) ∧
      shopSession.texts ([.generate (.node 0)] ++ [.generate (.node 1)]) =
          (shopSession.files ([.generate (.node 0)] ++ [.generate (.node 1)])).map File.text ∧
        (∀ f ∈ shopSession.files ([.generate (.node 0)] ++ [.generate (.node 1)]),
          ∀ which, ∀ d ∈ f.declarations.get which,
            shopSession.graph.DeclarationAt f.options d.id d.text) ∧
        ("customer" ∈
            shopSession.declaredNames ([.generate (.node 0)] ++ [.generate (.node 1)]) ↔
          ¬ shopSession.AtSome [.generate (.node 0)]
              (fun t r => t.AddsName r .interfaces "customer") ∨
            shopSession.AtSome [.generate (.node 0)] fun t r => t.Introduces r "customer") := by
  have hbatch : ∀ r ∈ [Request.generate (.node 0)], r.InBatch := by simp [Request.InBatch]
  have hfile : (generate shopSession.graph shopSession.options (.node 1)
      (shopSession.after [.generate (.node 0)]).memo).result = .ok "\n" :=
    eq_ok_of_toOption (by decide +kernel)
  have hreturned : ((shopSession.after [.generate (.node 0)]).step (.generate (.node 1))).1 =
      .ok (.text "\n") :=
    congrArg (Except.map Reply.text) hfile
  exact ⟨⟨rfl, hbatch, rfl, rfl, rfl, hreturned⟩,
    Session.root_declared_iff _ _ _ _ _ _ _ rfl hbatch rfl rfl rfl hreturned⟩

/-- The file of the order visits the customer and leaves it undeclared, and the
customer's own file then passes it over. -/
theorem shopSession_loses_customer :
    shopSession.graph.item (.node 1) = .node 1 customer ∧ customer.kind = .interface ∧
      customer.name = some "customer" ∧
      shopSession.texts [.generate (.node 0), .generate (.node 1)] =
        ["export interface Order \x7b\ncustomer: Customer\n\x7d\n", "\n"] ∧
      "customer" ∉ shopSession.declaredNames [.generate (.node 0), .generate (.node 1)] := by
  refine ⟨rfl, rfl, rfl, ?_, ?_⟩
  · decide +kernel
  · decide +kernel

end SchemaDecls
