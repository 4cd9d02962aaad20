import SchemaDecls.Proofs.Containment

/-!
# Files that are asked for again

A file that cannot be written can be asked for once more, with what the failure has left
behind.  The schema is the same, and so is its fault.  Nevertheless the file does not fail
for ever.  A pass remembers the root before it does anything else, and so the pass that
failed passes the root over the next time, and so do the passes before it.  The file then
fails in a pass further on, or not at all (`Memo.Halted.generate_cases`).  There are three
passes, so that the fourth time at the latest a file is returned
(`Memo.Halted.exists_returned`).

What is lost are the sections up to the last one that has failed.  They are empty in the
file that is returned, and all sections are empty in the files of this root from then on
(`exists_returned_iff`).  Only two faults are met each time: a root that is no node with
a name, for which nothing is remembered, and a banner that is no text.
-/

namespace SchemaDecls

/-- What is left when the file of a root has been asked for so many times, each time with
what was left the time before. -/
def memoLeft (g : Graph) (o : Options) (root : Child) (m : Memo) : Nat → Memo
  | 0 => m
  | k + 1 => (generate g o root (memoLeft g o root m k)).memo

/-- The run for a file that has been asked for so many times before. -/
def attempt (g : Graph) (o : Options) (root : Child) (m : Memo) (k : Nat) : Run String :=
  generate g o root (memoLeft g o root m k)

/-- What the first attempt has left is what the others start from. -/
theorem memoLeft_succ (g : Graph) (o : Options) (root : Child) (m : Memo) (k : Nat) :
    memoLeft g o root m (k + 1) = memoLeft g o root (generate g o root m).memo k := by
  induction k with
  | zero => rfl
  | succ k ih => rw [memoLeft, ih, memoLeft]

theorem attempt_succ (g : Graph) (o : Options) (root : Child) (m : Memo) (k : Nat) :
    attempt g o root m (k + 1) = attempt g o root (generate g o root m).memo k := by
  rw [attempt, memoLeft_succ, attempt]

variable {g : Graph} {o : Options} {root : Child} {rootText banner : String}

/-! ## What a failure leaves of the root -/

/-- A pass that fails from a node on has not visited it before, and then has. -/
theorem Fails.enters {p : Pass} {c : Child} {v w : Visited} {f : Failure}
    (h : Fails g o p [c] v f w) (hc : g.HasNode c) : ¬ v.Covers g c ∧ w.Covers g c := by
  obtain ⟨id, n, hitem⟩ := hc
  -- Whichever way it fails, the node is new, and what is left goes on from its insertion.
  have hnode : v.holds id n = false ∧ ∃ ids, Entered g (v.insert id n) ids w := by
    cases h with
    | later _ hrest => cases hrest
    | value hvalue =>
        rw [hitem] at hvalue
        contradiction
    | refused hitem' hnew _ =>
        obtain ⟨rfl, rfl⟩ := Graph.item_inj hitem hitem'
        exact ⟨hnew, [], .nil⟩
    | before hitem' hnew _ hbefore =>
        obtain ⟨rfl, rfl⟩ := Graph.item_inj hitem hitem'
        exact ⟨hnew, hbefore.trail⟩
    | own hitem' hnew _ hbefore _ _ =>
        obtain ⟨rfl, rfl⟩ := Graph.item_inj hitem hitem'
        obtain ⟨ids, htrail, -⟩ := hbefore.trail
        exact ⟨hnew, ids, htrail⟩
    | after hitem' hnew _ hbefore _ hafter =>
        obtain ⟨rfl, rfl⟩ := Graph.item_inj hitem hitem'
        obtain ⟨ids, htrail, -⟩ := hbefore.trail
        obtain ⟨more, htrail'⟩ := hafter.trail
        exact ⟨hnew, more ++ ids, htrail.trans htrail'⟩
  obtain ⟨hnew, ids, htrail⟩ := hnode
  constructor
  · rintro ⟨id', n', hitem', hheld⟩
    obtain ⟨rfl, rfl⟩ := Graph.item_inj hitem hitem'
    rw [hnew] at hheld
    contradiction
  · exact htrail.covers ⟨id, n, hitem, Visited.holds_insert_self v id n⟩

/-- A pass that has visited the child before declares nothing. -/
theorem Visits.eq_nil_of_covers {p : Pass} {c : Child} {v w : Visited} {ds : List Declared}
    (h : Visits g o p [c] v ds w) (hc : v.Covers g c) : ds = [] := by
  obtain ⟨id, n, hitem, hheld⟩ := hc
  cases h with
  | passed _ _ hrest =>
      cases hrest
      rfl
  | entered hitem' hnew _ _ _ _ _ =>
      obtain ⟨rfl, rfl⟩ := Graph.item_inj hitem hitem'
      rw [hheld] at hnew
      contradiction

/-! ## One more attempt -/

/-- Nothing is declared in the sections before this place.  Those from there on have what
their passes declare from `m₀` on. -/
structure Declarations.ResumesAt (d : Declarations) (place : Nat) (g : Graph) (o : Options)
    (root : Child) (rootText : String) (m₀ : Memo) : Prop where
  lost : ∀ which : Section, which.place < place → d.get which = []
  written : ∀ which : Section, place ≤ which.place →
    ∃ w, Visits g o (Pass.ofSection o (some rootText) which) [root] (m₀.get which) (d.get which) w

/-- What failures have left of `m₀`.  In the sections before this place the root counts as
visited; those from there on are as they were. -/
structure Memo.Halted (g : Graph) (root : Child) (place : Nat) (m₀ m : Memo) : Prop where
  covers : ∀ which : Section, which.place < place → (m.get which).Covers g root
  untouched : ∀ which : Section, place ≤ which.place → m.get which = m₀.get which

namespace Memo.Halted

variable {place : Nat} {m₀ m m' : Memo}

/-- Where nothing has failed yet, all is as it was. -/
theorem start (g : Graph) (root : Child) (m : Memo) : Halted g root 0 m m :=
  ⟨fun _ hplace => absurd hplace (Nat.not_lt_zero _), fun _ _ => rfl⟩

/-- A section that fails is none of those before the place, and the place then moves behind
it. -/
theorem failsIn {which : Section} {f : Failure} (h : Halted g root place m₀ m)
    (hroot : rootName g root = .ok rootText) (hfails : which.FailsIn g o rootText root m f m') :
    place ≤ which.place ∧ Halted g root (which.place + 1) m₀ m' := by
  obtain ⟨hnot, hcovers⟩ := hfails.fails.enters (hasNode_of_rootName hroot)
  have hplace : place ≤ which.place := Nat.le_of_not_lt fun hlt => hnot (h.covers which hlt)
  refine ⟨hplace, ?_, ?_⟩
  · intro other hother
    rcases Nat.lt_succ_iff_lt_or_eq.mp hother with hearlier | hsame
    · obtain ⟨ds, hvisits⟩ := hfails.earlier other hearlier
      exact hvisits.covers (List.mem_singleton_self root)
    · rw [Section.place_inj hsame]
      exact hcovers
  · intro other hother
    rw [hfails.later other hother, h.untouched other (by omega)]

/-- The next attempt returns, or it fails in a section. -/
theorem generate_cases (h : Halted g root place m₀ m) (hroot : rootName g root = .ok rootText)
    (hbanner : bannerText o = .ok banner) :
    (∃ d : Declarations, (generate g o root m).result = .ok (fileText banner d.texts) ∧
        d.ResumesAt place g o root rootText m₀ ∧
        ∀ which, ((generate g o root m).memo.get which).Covers g root) ∨
      ∃ (which : Section) (f : Failure), (generate g o root m).result = .error f ∧
        which.FailsIn g o rootText root m f (generate g o root m).memo := by
  cases hends : (runPasses g o root m).result with
  | ok d =>
      obtain ⟨rootText', hroot', hvisits⟩ := runPasses_visits hends
      rw [hroot] at hroot'
      obtain rfl := Except.ok.inj hroot'
      refine .inl ⟨d, generate_of_run hends hbanner, ⟨?_, ?_⟩, ?_⟩
      · intro which hplace
        exact (hvisits which).eq_nil_of_covers (h.covers which hplace)
      · intro which hplace
        rw [← h.untouched which hplace]
        exact ⟨_, hvisits which⟩
      · intro which
        rw [generate_memo]
        exact (hvisits which).covers (List.mem_singleton_self root)
  | error f =>
      rcases runPasses_eq_error hends with ⟨hroot', -⟩ | ⟨rootText', which, hroot', hfails⟩
      · rw [hroot] at hroot'
        contradiction
      · rw [hroot] at hroot'
        obtain rfl := Except.ok.inj hroot'
        have hresult : (generate g o root m).result = .error f := by
          unfold generate
          rw [Run.andThen_result, hends]
          rfl
        rw [← generate_memo] at hfails
        exact .inr ⟨which, f, hresult, hfails⟩

/-! ## All attempts -/

/-- Once a file has been returned, only its banner is, however often it is asked for. -/
theorem memoLeft_of_covers (hroot : rootName g root = .ok rootText)
    (hbanner : bannerText o = .ok banner) (hcovers : ∀ which, (m.get which).Covers g root)
    (k : Nat) : memoLeft g o root m k = m := by
  induction k with
  | zero => rfl
  | succ k ih => rw [memoLeft, ih, generate_of_covers hroot hcovers hbanner]

theorem attempt_of_covers (hroot : rootName g root = .ok rootText)
    (hbanner : bannerText o = .ok banner) (hcovers : ∀ which, (m.get which).Covers g root)
    (k : Nat) : (attempt g o root m k).result = .ok (banner ++ "\n") := by
  rw [attempt, memoLeft_of_covers hroot hbanner hcovers, generate_of_covers hroot hcovers hbanner]

/-- After a failure some attempt returns.  Each one that fails in between moves the place
on, and the file has the sections that are left in the end. -/
theorem exists_returned {f : Failure} (h : Halted g root place m₀ m)
    (hroot : rootName g root = .ok rootText) (hbanner : bannerText o = .ok banner)
    (hfails : (generate g o root m).result = .error f) :
    ∃ (k : Nat) (last : Section) (d : Declarations), place + k ≤ last.place ∧
      (∀ j ≤ k, ∃ f, (attempt g o root m j).result = .error f) ∧
      (∃ f, last.FailsIn g o rootText root (memoLeft g o root m k) f
        (memoLeft g o root m (k + 1))) ∧
      (attempt g o root m (k + 1)).result = .ok (fileText banner d.texts) ∧
      d.ResumesAt (last.place + 1) g o root rootText m₀ ∧
      ∀ j, k + 1 < j → (attempt g o root m j).result = .ok (banner ++ "\n") := by
  -- The induction is on the number of sections that have not failed yet.
  induction hleft : 3 - place using Nat.strong_induction_on generalizing place m f with
  | _ left ih =>
    rcases h.generate_cases hroot hbanner with ⟨d, hreturned, -⟩ | ⟨which, e, -, hwhich⟩
    · rw [hfails] at hreturned
      contradiction
    obtain ⟨hplace, hhalted⟩ := h.failsIn hroot hwhich
    have hthree : which.place < 3 := by cases which <;> decide
    rcases hhalted.generate_cases hroot hbanner with
      ⟨d, hreturned, hd, hcovers⟩ | ⟨next, e', hagain, -⟩
    · refine ⟨0, which, d, hplace, ?_, ⟨e, hwhich⟩, hreturned, hd, ?_⟩
      · intro j hj
        obtain rfl := Nat.le_zero.mp hj
        exact ⟨f, hfails⟩
      · intro j hj
        obtain ⟨i, rfl⟩ : ∃ i, j = i + 1 + 1 := ⟨j - 2, by omega⟩
        rw [attempt_succ, attempt_succ]
        exact attempt_of_covers hroot hbanner hcovers i
    · obtain ⟨k, last, d, hk, hfailed, ⟨e'', hlast⟩, hreturned, hd, hafter⟩ :=
        ih (3 - (which.place + 1)) (by omega) hhalted hagain rfl
      refine ⟨k + 1, last, d, by omega, ?_, ⟨e'', ?_⟩, ?_, hd, ?_⟩
      · intro j hj
        cases j with
        | zero => exact ⟨f, hfails⟩
        | succ j =>
            rw [attempt_succ]
            exact hfailed j (by omega)
      · rw [memoLeft_succ, memoLeft_succ]
        exact hlast
      · rw [attempt_succ]
        exact hreturned
      · intro j hj
        obtain ⟨i, rfl⟩ : ∃ i, j = i + 1 := ⟨j - 1, by omega⟩
        rw [attempt_succ]
        exact hafter i (by omega)

end Memo.Halted

/-- A file is returned only for a root that is a node with a name, and with a banner that
can be written. -/
theorem inputs_of_returned {m : Memo} {text : String}
    (h : (generate g o root m).result = .ok text) :
    (∃ rootText, rootName g root = .ok rootText) ∧ ∃ banner, bannerText o = .ok banner := by
  obtain ⟨banner, d, hbanner, hrun, -⟩ := generate_eq_ok h
  obtain ⟨rootText, hroot, -⟩ := runPasses_visits hrun
  exact ⟨⟨rootText, hroot⟩, banner, hbanner⟩

/-- A file that fails is returned at a later attempt exactly if its root is a node with a
name and its banner can be written.  The attempts that fail before do so in one section
after the other, and so there are three of them at most.  The file that is returned has
nothing in the sections up to the last one that failed, and the files after it have no
declarations. -/
theorem exists_returned_iff (g : Graph) (o : Options) (root : Child) (m : Memo) (f : Failure)
    (h : (generate g o root m).result = .error f) :
    ((∃ k text, (attempt g o root m (k + 1)).result = .ok text) ↔
      (∃ rootText, rootName g root = .ok rootText) ∧ ∃ banner, bannerText o = .ok banner) ∧
    ∀ rootText banner, rootName g root = .ok rootText → bannerText o = .ok banner →
      ∃ (k : Nat) (last : Section) (d : Declarations), k ≤ last.place ∧
        (∀ j ≤ k, ∃ f, (attempt g o root m j).result = .error f) ∧
        (∃ f, last.FailsIn g o rootText root (memoLeft g o root m k) f
          (memoLeft g o root m (k + 1))) ∧
        (attempt g o root m (k + 1)).result = .ok (fileText banner d.texts) ∧
        d.ResumesAt (last.place + 1) g o root rootText m ∧
        ∀ j, k + 1 < j → (attempt g o root m j).result = .ok (banner ++ "\n") := by
  have hstart := Memo.Halted.start g root m
  refine ⟨⟨?_, ?_⟩, ?_⟩
  · rintro ⟨k, text, hreturned⟩
    exact inputs_of_returned hreturned
  · rintro ⟨⟨rootText, hroot⟩, banner, hbanner⟩
    obtain ⟨k, last, d, -, -, -, hreturned, -⟩ := hstart.exists_returned hroot hbanner h
    exact ⟨k, _, hreturned⟩
  · intro rootText banner hroot hbanner
    obtain ⟨k, last, d, hk, hrest⟩ := hstart.exists_returned hroot hbanner h
    exact ⟨k, last, d, by omega, hrest⟩

/-- An order whose state is one of an enum without a name or a text. -/
def stateGraph : Graph := ⟨#[
  ⟨.interface [⟨some "state", .node 1, true, false, false⟩] [], some "order", none⟩,
  ⟨.union [.node 2, .node 3], some "state", none⟩,
  ⟨.enum [⟨some "Open", .node 4⟩], none, none⟩,
  ⟨.string, none, none⟩,
  ⟨.literal (.str "open"), none, none⟩]⟩

theorem stateGraph_exists_returned :
    (generate stateGraph .unbannered (.node 0) .empty).result =
        .error (.unsupported (.node .enum none)) ∧
      ((∃ k text, (attempt stateGraph .unbannered (.node 0) .empty (k + 1)).result = .ok text) ↔
        (∃ rootText, rootName stateGraph (.node 0) = .ok rootText) ∧
          ∃ banner, bannerText .unbannered = .ok banner) ∧
      ∃ (k : Nat) (last : Section) (d : Declarations), k ≤ last.place ∧
        (∀ j ≤ k, ∃ f, (attempt stateGraph .unbannered (.node 0) .empty j).result = .error f) ∧
        (∃ f, last.FailsIn stateGraph .unbannered "order" (.node 0)
          (memoLeft stateGraph .unbannered (.node 0) .empty k) f
          (memoLeft stateGraph .unbannered (.node 0) .empty (k + 1))) ∧
        (attempt stateGraph .unbannered (.node 0) .empty (k + 1)).result =
          .ok (fileText "" d.texts) ∧
        d.ResumesAt (last.place + 1) stateGraph .unbannered (.node 0) "order" .empty ∧
        ∀ j, k + 1 < j →
          (attempt stateGraph .unbannered (.node 0) .empty j).result = .ok ("" ++ "\n") := by
  have hfails : (generate stateGraph .unbannered (.node 0) .empty).result =
      .error (.unsupported (.node .enum none)) := rfl
  obtain ⟨hiff, hall⟩ := exists_returned_iff stateGraph .unbannered (.node 0) .empty _ hfails
  exact ⟨hfails, hiff, hall "order" "" rfl rfl⟩

/-- The pass for aliases fails at the state.  The second time it passes over the order, the
others do not go into the union, and the file refers to a state that is never declared. -/
theorem stateGraph_returns_after_failure :
    (generate stateGraph .unbannered (.node 0) .empty).result =
        .error (.unsupported (.node .enum none)) ∧
      (attempt stateGraph .unbannered (.node 0) .empty 1).result =
        .ok "export interface Order \x7b\nstate: State\n\x7d\n" :=
  ⟨rfl, eq_ok_of_toOption (by decide +kernel)⟩

end SchemaDecls
