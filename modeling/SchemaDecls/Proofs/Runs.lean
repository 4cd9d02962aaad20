import SchemaDecls.Generate
import SchemaDecls.Proofs.PassRules

/-!
# Runs of the three passes

A run takes a memo to a memo.  `Memo.Grows` says that it only adds to it, pass
by pass along a trail; every run does, whether it returns or fails, and it adds
only what its passes can come to (`generate_growsWithin`).  A run that returns is
made of three walks that return, each from what its pass had visited before the
run (`generate_eq_ok`): the memos of the passes do not touch one another.
-/

namespace SchemaDecls

/-- The declarations of a section. -/
def Declarations.get (d : Declarations) : Section → List Declared
  | .types => d.types
  | .interfaces => d.interfaces
  | .enums => d.enums

/-- The options by default, except that no banner is written. -/
def Options.unbannered : Options := Options.default.set .banner .null

/-! ## Memos that grow -/

/-- Each pass has visited what it had visited before, and nodes on a trail
from there. -/
def Memo.Grows (g : Graph) (m m' : Memo) : Prop :=
  ∀ which, ∃ ids, Entered g (m.get which) ids (m'.get which)

/-- A memo that grows by none but these nodes. -/
def Memo.GrowsWithin (g : Graph) (nodes : Section → NodeId → Prop) (m m' : Memo) : Prop :=
  ∀ which, ∃ ids, Entered g (m.get which) ids (m'.get which) ∧ ∀ id ∈ ids, nodes which id

namespace Memo.GrowsWithin

variable {g : Graph} {nodes nodes' : Section → NodeId → Prop} {m m' m'' : Memo}

theorem refl (m : Memo) : GrowsWithin g nodes m m := fun _ => ⟨[], .nil, by simp⟩

theorem trans (h : GrowsWithin g nodes m m') (h' : GrowsWithin g nodes m' m'') :
    GrowsWithin g nodes m m'' := by
  intro which
  obtain ⟨ids, htrail, hnodes⟩ := h which
  obtain ⟨more, htrail', hnodes'⟩ := h' which
  refine ⟨more ++ ids, htrail.trans htrail', ?_⟩
  intro id hid
  rcases List.mem_append.mp hid with hid | hid
  · exact hnodes' id hid
  · exact hnodes id hid

theorem mono (h : GrowsWithin g nodes m m') (hle : ∀ which id, nodes which id → nodes' which id) :
    GrowsWithin g nodes' m m' := by
  intro which
  obtain ⟨ids, htrail, hnodes⟩ := h which
  exact ⟨ids, htrail, fun id hid => hle which id (hnodes id hid)⟩

theorem set {which : Section} {w : Visited} {ids : List NodeId}
    (h : Entered g (m.get which) ids w) (hnodes : ∀ id ∈ ids, nodes which id) :
    GrowsWithin g nodes m (m.set which w) := by
  intro other
  by_cases hsame : other = which
  · subst hsame
    rw [get_set_self]
    exact ⟨ids, h, hnodes⟩
  · rw [get_set_of_ne m w hsame]
    exact ⟨[], .nil, by simp⟩

theorem grows (h : GrowsWithin g nodes m m') : Grows g m m' := by
  intro which
  obtain ⟨ids, htrail, -⟩ := h which
  exact ⟨ids, htrail⟩

end Memo.GrowsWithin

namespace Memo.Grows

variable {g : Graph} {m m' m'' : Memo}

theorem refl (m : Memo) : Grows g m m := fun _ => ⟨[], .nil⟩

theorem trans (h : Grows g m m') (h' : Grows g m' m'') : Grows g m m'' := by
  intro which
  obtain ⟨ids, htrail⟩ := h which
  obtain ⟨more, htrail'⟩ := h' which
  exact ⟨more ++ ids, htrail.trans htrail'⟩

theorem covers (h : Grows g m m') {which : Section} {c : Child} (hc : (m.get which).Covers g c) :
    (m'.get which).Covers g c := by
  obtain ⟨ids, htrail⟩ := h which
  exact htrail.covers hc

theorem declaresAlong (h : Grows g m m') (which : Section) :
    DeclaresAlong g (m.get which) [] (m'.get which) := by
  obtain ⟨ids, htrail⟩ := h which
  exact ⟨ids, htrail, List.nil_subperm⟩

end Memo.Grows

/-! ## Runs that return -/

/-- A result whose value is known. -/
theorem eq_ok_of_toOption {α : Type} {result : Except Failure α} {a : α}
    (h : result.toOption = some a) : result = .ok a := by
  cases result with
  | error f => contradiction
  | ok b => rw [Option.some.inj h]

theorem Run.andThen_of_ok {α β : Type} {first : Run α} {next : α → Memo → Run β} {a : α}
    (h : first.result = .ok a) : first.andThen next = next a first.memo := by
  simp [Run.andThen, h]

theorem Run.andThen_result {α β : Type} (first : Run α) (next : α → Memo → Run β) :
    (first.andThen next).result = first.result.bind fun a => (next a first.memo).result := by
  unfold andThen
  cases first.result <;> rfl

theorem Run.andThen_eq_ok {α β : Type} {first : Run α} {next : α → Memo → Run β} {b : β}
    (h : (first.andThen next).result = .ok b) :
    ∃ a, first.result = .ok a ∧ (next a first.memo).result = .ok b ∧
      (first.andThen next).memo = (next a first.memo).memo := by
  unfold Run.andThen at h ⊢
  cases hfirst : first.result with
  | error f =>
      rw [hfirst] at h
      contradiction
  | ok a =>
      rw [hfirst] at h
      exact ⟨a, rfl, h, rfl⟩

section

variable {g : Graph} {o : Options} {name : Option String} {which : Section} {root : Child}
  {m : Memo}

theorem runSection_eq_ok {ds : List Declared}
    (h : (runSection g o name which root m).result = .ok ds) :
    Walk.walk g o (Pass.ofSection o name which) root (m.get which) =
      ⟨.ok ds, (runSection g o name which root m).memo.get which⟩ := by
  unfold runSection at h ⊢
  rw [Memo.get_set_self, ← h]

/-- The pass of one section leaves the memos of the others alone. -/
theorem runSection_get_of_ne {other : Section} (h : other ≠ which) :
    (runSection g o name which root m).memo.get other = m.get other :=
  Memo.get_set_of_ne m _ h

/-- A run that returns consists of three walks that return, each from what its
pass had visited before. -/
theorem runPasses_eq_ok {d : Declarations} (h : (runPasses g o root m).result = .ok d) :
    ∃ rootText, rootName g root = .ok rootText ∧
      ∀ which, Walk.walk g o (Pass.ofSection o (some rootText) which) root (m.get which) =
        ⟨.ok (d.get which), (runPasses g o root m).memo.get which⟩ := by
  unfold runPasses at h ⊢
  cases hname : rootName g root with
  | error f =>
      rw [hname] at h
      contradiction
  | ok rootText =>
      simp only [hname] at h ⊢
      obtain ⟨types, htypes, h, hm⟩ := Run.andThen_eq_ok h
      obtain ⟨interfaces, hinterfaces, h, hm'⟩ := Run.andThen_eq_ok h
      obtain ⟨enums, henums, h, hm''⟩ := Run.andThen_eq_ok h
      obtain rfl := Except.ok.inj h
      refine ⟨rootText, rfl, ?_⟩
      rw [hm, hm', hm'']
      intro which
      cases which with
      | types =>
          rw [runSection_get_of_ne (show Section.types ≠ .enums by decide),
            runSection_get_of_ne (show Section.types ≠ .interfaces by decide)]
          exact runSection_eq_ok htypes
      | interfaces =>
          rw [runSection_get_of_ne (show Section.interfaces ≠ .enums by decide)]
          have hwalk := runSection_eq_ok hinterfaces
          rwa [runSection_get_of_ne (show Section.interfaces ≠ .types by decide)] at hwalk
      | enums =>
          have hwalk := runSection_eq_ok henums
          rwa [runSection_get_of_ne (show Section.enums ≠ .interfaces by decide),
            runSection_get_of_ne (show Section.enums ≠ .types by decide)] at hwalk

theorem runPasses_visits {d : Declarations} (h : (runPasses g o root m).result = .ok d) :
    ∃ rootText, rootName g root = .ok rootText ∧
      ∀ which, Visits g o (Pass.ofSection o (some rootText) which) [root] (m.get which)
        (d.get which) ((runPasses g o root m).memo.get which) := by
  obtain ⟨rootText, hroot, hwalks⟩ := runPasses_eq_ok h
  exact ⟨rootText, hroot, fun which => visits_of_walk (hwalks which)⟩

/-- Whatever a run declares is the declaration of a node that has a name. -/
theorem runPasses_declared {d : Declarations} (h : (runPasses g o root m).result = .ok d)
    {x : Declared} (hx : x ∈ d.get which) :
    g.DeclarationAt o x.id x.text ∧ ∃ name, g.nameOf? x.id = some name := by
  obtain ⟨rootText, -, hvisits⟩ := runPasses_visits h
  have hdeclared := (hvisits which).declarationAt hx
  exact ⟨hdeclared, hdeclared.exists_name⟩

/-- A file that is returned has a banner and the three sections of its run. -/
theorem generate_eq_ok {text : String} (h : (generate g o root m).result = .ok text) :
    ∃ banner d, bannerText o = .ok banner ∧ (runPasses g o root m).result = .ok d ∧
      (generate g o root m).memo = (runPasses g o root m).memo ∧
      text = fileText banner d.texts := by
  obtain ⟨d, hrun, hfile, hmemo⟩ := Run.andThen_eq_ok h
  cases hbanner : bannerText o with
  | error f =>
      rw [hbanner] at hfile
      contradiction
  | ok banner =>
      rw [hbanner] at hfile
      exact ⟨banner, d, rfl, hrun, hmemo, (Except.ok.inj hfile).symm⟩

end

/-! ## What runs add -/

/-- A pass adds what it can come to from the root. -/
theorem runSection_growsWithin (g : Graph) (o : Options) (name : Option String) (which : Section)
    (root : Child) (m : Memo) :
    m.GrowsWithin g (fun other => other.Reaches g root)
      (runSection g o name which root m).memo := by
  obtain ⟨ids, htrail, hreached⟩ := Pass.walk_reaches o name g which root (m.get which)
  exact .set htrail hreached

theorem Run.andThen_growsWithin {α β : Type} {g : Graph} {nodes : Section → NodeId → Prop}
    {m : Memo} {first : Run α} {next : α → Memo → Run β}
    (hfirst : m.GrowsWithin g nodes first.memo)
    (hnext : ∀ a m', Memo.GrowsWithin g nodes m' (next a m').memo) :
    m.GrowsWithin g nodes (first.andThen next).memo := by
  unfold Run.andThen
  cases first.result with
  | error f => exact hfirst
  | ok a => exact hfirst.trans (hnext a first.memo)

theorem runPasses_growsWithin (g : Graph) (o : Options) (root : Child) (m : Memo) :
    m.GrowsWithin g (fun which => which.Reaches g root) (runPasses g o root m).memo := by
  unfold runPasses
  cases rootName g root with
  | error f => exact .refl m
  | ok name =>
      apply Run.andThen_growsWithin (runSection_growsWithin g o _ _ root m)
      intro types m₁
      apply Run.andThen_growsWithin (runSection_growsWithin g o _ _ root m₁)
      intro interfaces m₂
      apply Run.andThen_growsWithin (runSection_growsWithin g o _ _ root m₂)
      intro enums m₃
      exact .refl m₃

/-- Writing a file visits nothing beyond its passes. -/
theorem generate_memo (g : Graph) (o : Options) (root : Child) (m : Memo) :
    (generate g o root m).memo = (runPasses g o root m).memo := by
  unfold generate Run.andThen
  cases (runPasses g o root m).result with
  | error f => rfl
  | ok d => rfl

/-- Whether it returns or fails, a run only adds to what has been visited, and
only what its passes can come to from the root. -/
theorem generate_growsWithin (g : Graph) (o : Options) (root : Child) (m : Memo) :
    m.GrowsWithin g (fun which => which.Reaches g root) (generate g o root m).memo := by
  rw [generate_memo]
  exact runPasses_growsWithin g o root m

theorem generate_grows (g : Graph) (o : Options) (root : Child) (m : Memo) :
    m.Grows g (generate g o root m).memo :=
  (generate_growsWithin g o root m).grows

end SchemaDecls
