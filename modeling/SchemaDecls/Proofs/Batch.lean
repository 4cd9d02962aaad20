import SchemaDecls.Proofs.SectionText

/-!
# Batches of files

A batch is a session in which files are written one after another and nothing
is forgotten in between; the options may change from file to file, and some
files may fail.  A graph need not hang together, so that one graph stands for
all that the roots are taken from.

What a batch has declared is read off from the runs behind its files
(`Session.files`), whose texts are the answers of the session.  The invariant
is one of the memo: the nodes that a pass has declared in all files so far lie
on the trail from what it had visited at the start to what it has visited now
(`Session.declaresAlong_after`).  No name occurs twice on a trail, so none is
declared twice, however many files fail in between.  And since what has been
visited stays so, a root whose file was written once leaves nothing to be
written a second time.
-/

namespace SchemaDecls

/-! ## Files -/

/-- A file that was written, with the options of that time. -/
structure File where
  options : Options
  banner : String
  declarations : Declarations

namespace File

/-- The text of a file. -/
def text (f : File) : String := fileText f.banner f.declarations.texts

/-- The nodes that a section of the file declares. -/
def declared (which : Section) (f : File) : List NodeId :=
  (f.declarations.get which).map Declared.id

end File

/-- The text of an answer, if it is one. -/
def replyText? : Except Failure Reply → Option String
  | .ok (.text text) => some text
  | _ => none

/-- The requests of which batches consist. -/
def Request.InBatch : Request → Prop
  | .generate _ | .setOptions _ => True
  | _ => False

namespace Session

/-- The file that is written on a request, if one is asked for and its run and
its banner do not fail. -/
def file? (s : Session) : Request → Option File
  | .generate root => do
      let declarations ← (runPasses s.graph s.options root s.memo).result.toOption
      let banner ← (bannerText s.options).toOption
      return ⟨s.options, banner, declarations⟩
  | _ => none

/-- The session after some requests. -/
def after (s : Session) : List Request → Session
  | [] => s
  | request :: rest => (s.step request).2.after rest

/-- The files that are written on some requests. -/
def files (s : Session) : List Request → List File
  | [] => []
  | request :: rest => (s.file? request).toList ++ (s.step request).2.files rest

/-- The texts that some requests are answered by. -/
def texts (s : Session) (requests : List Request) : List String :=
  (s.run requests).filterMap fun answer => replyText? answer.1

/-- The nodes that the files declare in one of their sections. -/
def declared (s : Session) (which : Section) (requests : List Request) : List NodeId :=
  (s.files requests).flatMap (File.declared which)

variable {s : Session} {request : Request} {requests : List Request} {root : Child}

theorem after_append (s : Session) (before rest : List Request) :
    s.after (before ++ rest) = (s.after before).after rest := by
  induction before generalizing s with
  | nil => rfl
  | cons request before ih => exact ih (s.step request).2

theorem files_cons (s : Session) (request : Request) (rest : List Request) :
    s.files (request :: rest) = (s.file? request).toList ++ (s.step request).2.files rest := rfl

theorem files_append (s : Session) (before rest : List Request) :
    s.files (before ++ rest) = s.files before ++ (s.after before).files rest := by
  induction before generalizing s with
  | nil => rfl
  | cons request before ih =>
      rw [List.cons_append, files_cons, files_cons, ih (s.step request).2, List.append_assoc]
      rfl

/-! ### One request -/

theorem graph_step (h : request.InBatch) : (s.step request).2.graph = s.graph := by
  cases request with
  | generate root => rfl
  | setOptions options => rfl
  | _ => exact h.elim

/-- The file of a request consists of its banner and the declarations of its
run. -/
theorem file?_generate_eq_some {f : File} (h : s.file? (.generate root) = some f) :
    (runPasses s.graph s.options root s.memo).result = .ok f.declarations ∧
      bannerText s.options = .ok f.banner ∧ f.options = s.options := by
  obtain ⟨declarations, hrun, h⟩ := Option.bind_eq_some_iff.mp h
  obtain ⟨banner, hbanner, h⟩ := Option.bind_eq_some_iff.mp h
  obtain rfl := Option.some.inj h
  exact ⟨eq_ok_of_toOption hrun, eq_ok_of_toOption hbanner, rfl⟩

/-- A request is answered by the text of its file. -/
theorem replyText?_step (h : request.InBatch) :
    replyText? (s.step request).1 = (s.file? request).map File.text := by
  cases request with
  | generate root =>
      show replyText? ((generate s.graph s.options root s.memo).result.map Reply.text) = _
      unfold generate Run.andThen file?
      cases hrun : (runPasses s.graph s.options root s.memo).result with
      | error f => simp [hrun, Except.map, Except.toOption, replyText?]
      | ok declarations =>
          cases hbanner : bannerText s.options with
          | error f => simp [hrun, Except.map, Except.toOption, replyText?]
          | ok banner => simp [hrun, Except.map, Except.toOption, replyText?, File.text]
  | setOptions options => rfl
  | _ => exact h.elim

theorem step_generate_memo (s : Session) (root : Child) :
    (s.step (.generate root)).2.memo = (runPasses s.graph s.options root s.memo).memo :=
  generate_memo s.graph s.options root s.memo

theorem step_grows (h : request.InBatch) : s.memo.Grows s.graph (s.step request).2.memo := by
  cases request with
  | generate root => exact generate_grows s.graph s.options root s.memo
  | setOptions options => exact .refl s.memo
  | _ => exact h.elim

/-- One request declares along the trails of its passes. -/
theorem declaresAlong_step (h : request.InBatch) (which : Section) :
    DeclaresAlong s.graph (s.memo.get which)
      ((s.file? request).toList.flatMap (File.declared which))
      ((s.step request).2.memo.get which) := by
  cases hfile : s.file? request with
  | none => exact (step_grows h).declaresAlong which
  | some f =>
      cases request with
      | generate root =>
          obtain ⟨hrun, hbanner, -⟩ := file?_generate_eq_some hfile
          obtain ⟨rootText, -, hvisits⟩ := runPasses_visits hrun
          rw [step_generate_memo]
          simpa [File.declared] using (hvisits which).declaresAlong
      | _ => contradiction

/-! ### Whole batches -/

theorem graph_after (h : ∀ r ∈ requests, r.InBatch) : (s.after requests).graph = s.graph := by
  induction requests generalizing s with
  | nil => rfl
  | cons request rest ih =>
      obtain ⟨hfirst, hrest⟩ := List.forall_mem_cons.mp h
      exact (ih hrest).trans (graph_step hfirst)

theorem after_grows (h : ∀ r ∈ requests, r.InBatch) :
    s.memo.Grows s.graph (s.after requests).memo := by
  induction requests generalizing s with
  | nil => exact .refl s.memo
  | cons request rest ih =>
      obtain ⟨hfirst, hrest⟩ := List.forall_mem_cons.mp h
      have hgrows := ih (s := (s.step request).2) hrest
      rw [graph_step hfirst] at hgrows
      exact (step_grows hfirst).trans hgrows

/-- What a batch declares in a section lies on the trail of its pass. -/
theorem declaresAlong_after (h : ∀ r ∈ requests, r.InBatch) (which : Section) :
    DeclaresAlong s.graph (s.memo.get which) (s.declared which requests)
      ((s.after requests).memo.get which) := by
  induction requests generalizing s with
  | nil => exact ⟨[], .nil, List.nil_subperm⟩
  | cons request rest ih =>
      obtain ⟨hfirst, hrest⟩ := List.forall_mem_cons.mp h
      have hlater := ih (s := (s.step request).2) hrest
      rw [graph_step hfirst] at hlater
      unfold declared files
      rw [List.flatMap_append]
      exact (declaresAlong_step hfirst which).trans hlater

theorem texts_eq (h : ∀ r ∈ requests, r.InBatch) :
    s.texts requests = (s.files requests).map File.text := by
  induction requests generalizing s with
  | nil => rfl
  | cons request rest ih =>
      obtain ⟨hfirst, hrest⟩ := List.forall_mem_cons.mp h
      have hlater := ih (s := (s.step request).2) hrest
      unfold texts at hlater ⊢
      unfold run files
      simp only [List.filterMap_cons, replyText?_step hfirst]
      cases s.file? request with
      | none => simpa using hlater
      | some f => simpa using hlater

/-- Whatever the files of a batch declare is the declaration of a node that has
a name. -/
theorem declared_of_mem_files (h : ∀ r ∈ requests, r.InBatch) {f : File}
    (hf : f ∈ s.files requests) {which : Section} {d : Declared}
    (hd : d ∈ f.declarations.get which) :
    s.graph.DeclarationAt f.options d.id d.text ∧ ∃ name, s.graph.nameOf? d.id = some name := by
  induction requests generalizing s with
  | nil => contradiction
  | cons request rest ih =>
      obtain ⟨hfirst, hrest⟩ := List.forall_mem_cons.mp h
      rcases List.mem_append.mp hf with hf | hf
      · have hfile : s.file? request = some f := by simpa using hf
        cases request with
        | generate root =>
            obtain ⟨hrun, -, hoptions⟩ := file?_generate_eq_some hfile
            rw [hoptions]
            exact runPasses_declared hrun hd
        | _ => contradiction
      · have hlater := ih (s := (s.step request).2) hrest hf
        rwa [graph_step hfirst] at hlater

end Session

/-! ## Roots that were written before -/

theorem Memo.set_get_self (m : Memo) (which : Section) : m.set which (m.get which) = m := by
  cases which <;> rfl

/-- A pass has nothing to do where the root counts as visited. -/
theorem runSection_of_covers {g : Graph} {root : Child} {which : Section} {m : Memo}
    (o : Options) (name : Option String) (h : (m.get which).Covers g root) :
    runSection g o name which root m = ⟨.ok [], m⟩ := by
  obtain ⟨id, n, hitem, hheld⟩ := h
  unfold runSection Walk.walk
  rw [Walk.walkUpTo_of_holds hitem hheld]
  simp only [Memo.set_get_self]

/-- A root that counts as visited in all passes has a file of no declarations. -/
theorem generate_of_covers {g : Graph} {o : Options} {root : Child} {m : Memo}
    {rootText banner : String} (hroot : rootName g root = .ok rootText)
    (hcovers : ∀ which, (m.get which).Covers g root) (hbanner : bannerText o = .ok banner) :
    generate g o root m = ⟨.ok (banner ++ "\n"), m⟩ := by
  have hpasses : runPasses g o root m = ⟨.ok ⟨[], [], []⟩, m⟩ := by
    unfold runPasses
    simp only [hroot, runSection_of_covers o _ (hcovers _), Run.andThen]
  have hfile : fileText banner [sectionText [], sectionText [], sectionText []] =
      banner ++ "\n" := by
    have hsection : dropFinalBreaks (sectionText []) = "" := by decide +kernel
    by_cases hempty : banner = ""
    · simp [fileText, hsection, hempty]
    · simp [fileText, hsection, hempty]
  unfold generate
  rw [hpasses]
  simp only [Run.andThen, hbanner, Except.map, Declarations.texts, hfile]

/-- What can be said of the files that a session writes on some requests, if it
forgets nothing in between. -/
structure Session.DeclaresOnce (s : Session) (requests : List Request) : Prop where
  /-- The answers are the texts of the files. -/
  texts_eq : s.texts requests = (s.files requests).map File.text
  /-- Each declaration in the files is that of a node with a name. -/
  declared : ∀ f ∈ s.files requests, ∀ which, ∀ d ∈ f.declarations.get which,
    s.graph.DeclarationAt f.options d.id d.text ∧ ∃ name, s.graph.nameOf? d.id = some name
  /-- No pass declares a name twice in all the files together. -/
  nodup : ∀ which, ((s.declared which requests).filterMap s.graph.nameOf?).Nodup
  /-- A root whose file was returned yields the banner alone from then on, and
  nothing changes. -/
  repeated : ∀ before root between text banner, requests = before ++ .generate root :: between →
    ((s.after before).step (.generate root)).1 = .ok (.text text) →
    bannerText (s.after requests).options = .ok banner →
    (s.after requests).step (.generate root) = (.ok (.text (banner ++ "\n")), s.after requests)

namespace Session

variable {s : Session} {root : Child}

/-- Behind a file that is returned stand three passes that come to their end. -/
theorem visits_of_step_generate {text : String}
    (h : (s.step (.generate root)).1 = .ok (.text text)) :
    ∃ rootText, rootName s.graph root = .ok rootText ∧
      ∀ which, ∃ ds, Visits s.graph s.options (Pass.ofSection s.options (some rootText) which)
        [root] (s.memo.get which) ds ((s.step (.generate root)).2.memo.get which) := by
  obtain ⟨banner, d, -, hrun, hmemo, -⟩ := generate_eq_ok (ofRun_eq_ok h)
  obtain ⟨rootText, hroot, hvisits⟩ := runPasses_visits hrun
  rw [← hmemo] at hvisits
  exact ⟨rootText, hroot, fun which => ⟨d.get which, hvisits which⟩⟩

/-- A root whose file was returned counts as visited in all passes. -/
theorem covers_of_step_generate {text : String}
    (h : (s.step (.generate root)).1 = .ok (.text text)) :
    ∃ rootText, rootName s.graph root = .ok rootText ∧
      ∀ which, ((s.step (.generate root)).2.memo.get which).Covers s.graph root := by
  obtain ⟨rootText, hroot, hvisits⟩ := visits_of_step_generate h
  refine ⟨rootText, hroot, ?_⟩
  intro which
  obtain ⟨ds, hvisits⟩ := hvisits which
  exact hvisits.covers (List.mem_singleton_self root)

/-- A root whose file was returned yields the banner alone from then on, and
nothing changes. -/
theorem step_generate_of_returned {between : List Request} {text banner : String}
    (hreturned : (s.step (.generate root)).1 = .ok (.text text))
    (hbetween : ∀ r ∈ between, r.InBatch)
    (hbanner : bannerText ((s.step (.generate root)).2.after between).options = .ok banner) :
    ((s.step (.generate root)).2.after between).step (.generate root) =
      (.ok (.text (banner ++ "\n")), (s.step (.generate root)).2.after between) := by
  obtain ⟨rootText, hroot, hcovers⟩ := covers_of_step_generate hreturned
  have hfirst : (s.step (.generate root)).2.graph = s.graph := rfl
  have hgraph := graph_after (s := (s.step (.generate root)).2) hbetween
  have hgrows := after_grows (s := (s.step (.generate root)).2) hbetween
  rw [hfirst] at hgraph hgrows
  generalize (s.step (.generate root)).2.after between = later at hbanner hgraph hgrows ⊢
  have hcovered : ∀ which, (later.memo.get which).Covers later.graph root := by
    intro which
    rw [hgraph]
    exact hgrows.covers (hcovers which)
  rw [← hgraph] at hroot
  show later.ofRun _ = _
  rw [generate_of_covers hroot hcovered hbanner]
  rfl

/-- In a batch each pass declares a name at most once, and a root whose file
was returned leaves nothing to be written again. -/
theorem batch_declaresOnce (s : Session) (requests : List Request)
    (h : ∀ r ∈ requests, r.InBatch) : s.DeclaresOnce requests := by
  refine ⟨texts_eq h, ?_, fun which => (declaresAlong_after h which).nodup_names, ?_⟩
  · intro f hf which d hd
    exact declared_of_mem_files h hf hd
  · intro before root between text banner hsplit hreturned hbanner
    have hbetween : ∀ r ∈ between, r.InBatch := by
      intro r hr
      apply h
      rw [hsplit]
      exact List.mem_append_right _ (List.mem_cons_of_mem _ hr)
    have hend : s.after requests = ((s.after before).step (.generate root)).2.after between := by
      rw [hsplit, after_append]
      rfl
    rw [hend] at hbanner ⊢
    exact step_generate_of_returned hreturned hbetween hbanner

end Session

/-- The mailbox with letters and parcels.  The contents of a parcel cannot be
declared. -/
def postSession : Session where
  graph := ⟨mailboxSession.graph.nodes ++ #[
    ⟨.interface [⟨some "weight", .node 5, true, false, false⟩,
      ⟨some "contents", .value .null, true, false, false⟩] [], some "parcel", none⟩,
    ⟨.number, some "weight", none⟩,
    ⟨.interface [⟨some "to", .node 3, true, false, false⟩,
      ⟨some "weight", .node 5, true, false, false⟩] [], some "letter", none⟩]⟩
  options := .unbannered
  memo := .empty

/-- A mailbox, a parcel, a letter and the mailbox again. -/
def postBatch : List Request :=
  [.generate (.node 0), .generate (.node 4),
    .setOptions (Options.default.set .banner (.str "// Post")), .generate (.node 6),
    .generate (.node 0)]

/-- The parcel fails after its weight has been visited, so the letter refers to
a weight that no file declares. -/
theorem postBatch_declaresOnce :
    (∀ r ∈ postBatch, r.InBatch) ∧
      postSession.texts postBatch =
        ["export type Folders = Mailbox[]\nexport type Address = string\n\n" ++
            "export interface Mailbox \x7b\nfolders: Folders\nsender: Address\n" ++
            "copy?: Address\n\x7d\n",
          "// Post\n\nexport interface Letter \x7b\nto: Address\nweight: Weight\n\x7d\n",
          "// Post\n"] ∧
      postSession.DeclaresOnce postBatch := by
  have hbatch : ∀ r ∈ postBatch, r.InBatch := by simp [postBatch, Request.InBatch]
  exact ⟨hbatch, by decide +kernel, Session.batch_declaresOnce _ _ hbatch⟩

end SchemaDecls
