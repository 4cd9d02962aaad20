import Mathlib.Data.List.Forall2
import SchemaDecls.Proofs.Joining
import SchemaDecls.Proofs.Runs
import SchemaDecls.Session

/-!
# The text of a section and what its pass has visited

A session may be asked for one section alone, whatever its pass has visited
before.  The text it answers and the nodes that the pass has visited since then
tell the same story (`Session.declare_accounts`): the text lists the
declarations of those of the new nodes that have their declaration in the
section, one by one, and nothing else.  It is also the text that the nested
joins of `Walk.write` come to, so no declaration is lost or doubled and no
empty line is left between two of them, however deep they were found.

The nodes that a set has gained are meant by their numbers.  A node that counts
as visited only because another one of its name was visited is not among them,
and has no declaration.
-/

namespace SchemaDecls

/-- The text of a section lists the declarations `texts` of the nodes `ids`,
and these are the nodes that the set of its pass has gained on the way from `v`
to `w` and that have their declaration in this section. -/
structure Section.Accounts (which : Section) (g : Graph) (o : Options) (rootName : Option String)
    (v w : Visited) (text : String) (ids : List NodeId) (texts : List String) : Prop where
  nodup : ids.Nodup
  mem_iff : ∀ id, id ∈ ids ↔
    id ∈ w.ids ∧ id ∉ v.ids ∧ ∃ n, g.get? id = some n ∧ which.Declares o rootName n
  /-- Nor did any of them count as visited for its name. -/
  new : ∀ id ∈ ids, ∀ n, g.get? id = some n → v.holds id n = false
  declared : List.Forall₂ (g.DeclarationAt o) ids texts
  visible : "" ∉ texts
  text_eq : text = "\n".intercalate texts

section

variable {g : Graph} {o : Options} {rootName : Option String} {which : Section} {cs : List Child}
  {v w : Visited} {ds : List Declared}

theorem Visits.declared (h : Visits g o (Pass.ofSection o rootName which) cs v ds w) :
    List.Forall₂ (g.DeclarationAt o) (ds.map Declared.id) (ds.map Declared.text) := by
  rw [List.forall₂_map_left_iff, List.forall₂_map_right_iff, List.forall₂_same]
  intro d hd
  exact h.declarationAt hd

/-- A pass that comes to its end accounts for what it has visited. -/
theorem Visits.accounts (h : Visits g o (Pass.ofSection o rootName which) cs v ds w) :
    which.Accounts g o rootName v w (sectionText ds) (ds.map Declared.id)
      (ds.map Declared.text) := by
  refine ⟨h.nodup_declared, fun id => h.mem_declared_iff, ?_, h.declared, ?_, rfl⟩
  · obtain ⟨ids, htrail, hperm⟩ := h.trail
    intro id hid n hn
    have hmem : id ∈ ids := (List.mem_filter.mp (hperm.mem_iff.mp hid)).1
    exact htrail.holds_eq_false hmem hn
  · intro hempty
    obtain ⟨d, hd, htext⟩ := List.mem_map.mp hempty
    exact (h.declarationAt hd).ne_empty htext

end

/-- A request that is answered by a text comes from a run that returns it. -/
theorem Session.ofRun_eq_ok {s : Session} {run : Run String} {text : String}
    (h : (s.ofRun run).1 = .ok (.text text)) : run.result = .ok text := by
  unfold ofRun at h
  cases hresult : run.result with
  | error f =>
      rw [hresult] at h
      contradiction
  | ok answer =>
      rw [hresult] at h
      have hreply := Except.ok.inj h
      rw [Reply.text.inj hreply]

/-- Behind the section that is answered stands a walk that returns. -/
theorem Session.declare_eq_ok {s : Session} {which : Section} {root : Child}
    {rootName : Option String} {text : String}
    (h : (s.step (.declare which root rootName)).1 = .ok (.text text)) :
    ∃ ds w, Walk.walk s.graph s.options (Pass.ofSection s.options rootName which) root
        (s.memo.get which) = ⟨.ok ds, w⟩ ∧
      text = sectionText ds ∧
      (s.step (.declare which root rootName)).2 = { s with memo := s.memo.set which w } := by
  obtain ⟨ds, hds, htext, hmemo⟩ := Run.andThen_eq_ok (ofRun_eq_ok h)
  have hwalk := runSection_eq_ok hds
  refine ⟨ds, _, hwalk, (Except.ok.inj htext).symm, ?_⟩
  have hset : (runSection s.graph s.options rootName which root s.memo).memo =
      s.memo.set which
        ((runSection s.graph s.options rootName which root s.memo).memo.get which) := by
    unfold runSection
    rw [Memo.get_set_self]
  unfold step ofRun
  simp only
  rw [hmemo]
  simp only
  rw [← hset]

/-- The text that is answered for a section accounts for what its pass has
visited, from whatever it had visited before, and is the one that the nested
joins come to.  The rest of the session stays as it is. -/
theorem Session.declare_accounts (s : Session) (which : Section) (root : Child)
    (rootName : Option String) (text : String)
    (h : (s.step (.declare which root rootName)).1 = .ok (.text text)) :
    ∃ w ids texts,
      (s.step (.declare which root rootName)).2 = { s with memo := s.memo.set which w } ∧
      which.Accounts s.graph s.options rootName (s.memo.get which) w text ids texts ∧
      Walk.write s.graph s.options (Pass.ofSection s.options rootName which) root
        (s.memo.get which) = ⟨.ok text, w⟩ := by
  obtain ⟨ds, w, hwalk, rfl, hsession⟩ := declare_eq_ok h
  have hvisits := visits_of_walk hwalk
  refine ⟨w, _, _, hsession, hvisits.accounts, ?_⟩
  rw [Walk.write_eq, hwalk]
  unfold Outcome.joined
  rw [← hvisits.joinLines_eq]
  rfl

/-- A mailbox with a list that refers back to it, where two nodes share a name
and something has been visited before. -/
def mailboxSession : Session where
  graph := ⟨#[
    ⟨.interface [⟨some "folders", .node 1, true, false, false⟩,
      ⟨some "sender", .node 2, true, false, false⟩,
      ⟨some "copy", .node 3, false, false, false⟩] [], some "mailbox", none⟩,
    ⟨.array (.node 0), some "folders", none⟩,
    ⟨.string, some "address", none⟩,
    ⟨.tuple [.node 2, .node 2], some "address", none⟩]⟩
  options := .unbannered
  memo := Memo.empty.set .types ⟨[7], ["colour"]⟩

theorem mailboxSession_accounts :
    (mailboxSession.step (.declare .types (.node 0) none)).1 =
        .ok (.text "export type Folders = Mailbox[]\nexport type Address = string") ∧
      ∃ w ids texts,
        (mailboxSession.step (.declare .types (.node 0) none)).2 =
          { mailboxSession with memo := mailboxSession.memo.set .types w } ∧
        Section.types.Accounts mailboxSession.graph mailboxSession.options none
          (mailboxSession.memo.get .types) w
          "export type Folders = Mailbox[]\nexport type Address = string" ids texts ∧
        Walk.write mailboxSession.graph mailboxSession.options
          (Pass.ofSection mailboxSession.options none .types) (.node 0)
          (mailboxSession.memo.get .types) =
            ⟨.ok "export type Folders = Mailbox[]\nexport type Address = string", w⟩ := by
  have hanswer : (mailboxSession.step (.declare .types (.node 0) none)).1 =
      .ok (.text "export type Folders = Mailbox[]\nexport type Address = string") := by
    have hrun : ((runSection mailboxSession.graph .unbannered none .types (.node 0)
        mailboxSession.memo).andThen fun declared m =>
          ⟨.ok (sectionText declared), m⟩).result =
        .ok "export type Folders = Mailbox[]\nexport type Address = string" :=
      eq_ok_of_toOption (by decide +kernel)
    exact congrArg (Except.map Reply.text) hrun
  exact ⟨hanswer, Session.declare_accounts _ _ _ _ _ hanswer⟩

end SchemaDecls
