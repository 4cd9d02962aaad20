import SchemaDecls.Proofs.Failing
import SchemaDecls.Proofs.History

/-!
# What a file that fails leaves behind

A failure can come from any depth of any of the three passes, and what was visited by then
stays visited.  Still it can be told from the outside what that is.  The passes remember
each for itself, and run one after another.  So there is one pass that fails, on its own
walk from the root.  The passes before it leave what they leave when a file is returned, and
those behind it leave what was there (`Section.Stops`).  If no pass fails, the banner does,
and then all of them have come to their ends; and for a root that is no node with a name no
pass begins (`generate_failure_contained`).

In all cases nothing is lost.  What is new has been reached from the root, by the pass that
remembers it.
-/

namespace SchemaDecls

/-- The run leads from `m` to `m'` and stops in the pass of this section: the walks before
return, its own fails, and those behind it are not begun. -/
structure Section.Stops (which : Section) (g : Graph) (o : Options) (rootText : String)
    (root : Child) (m : Memo) (f : Failure) (m' : Memo) : Prop where
  earlier : ∀ other : Section, other.place < which.place →
    ∃ ds, Walk.walk g o (Pass.ofSection o (some rootText) other) root (m.get other) =
      ⟨.ok ds, m'.get other⟩
  fails : Walk.walk g o (Pass.ofSection o (some rootText) which) root (m.get which) =
    ⟨.error f, m'.get which⟩
  later : ∀ other : Section, which.place < other.place → m'.get other = m.get other

variable {g : Graph} {o : Options} {root : Child} {rootText : String} {m m' : Memo} {f : Failure}

theorem Section.FailsIn.stops {which : Section} (h : which.FailsIn g o rootText root m f m') :
    which.Stops g o rootText root m f m' := by
  refine ⟨?_, h.fails.walk_eq, h.later⟩
  intro other hplace
  obtain ⟨ds, hvisits⟩ := h.earlier other hplace
  exact ⟨ds, hvisits.walk_eq⟩

/-- A memo that grows by what the passes can come to loses nothing. -/
theorem Memo.GrowsWithin.gains {nodes : Section → NodeId → Prop} (h : m.GrowsWithin g nodes m')
    (which : Section) :
    ∃ ids, (m.get which).Gains ids (ids.filterMap g.nameOf?) (m'.get which) ∧
      ∀ id ∈ ids, nodes which id := by
  obtain ⟨ids, htrail, hnodes⟩ := h which
  exact ⟨ids, htrail.gains, hnodes⟩

/-- A root that is refused is no node, or has no name. -/
theorem name_eq_none_of_rootName_eq_error (h : rootName g root = .error f) {id : NodeId} {n : Node}
    (hitem : g.item root = .node id n) : n.name = none := by
  cases hname : n.name with
  | none => rfl
  | some name =>
      rw [rootName_eq_ok_iff.mpr ⟨id, n, hitem, hname⟩] at h
      contradiction

/-- A file that fails leaves what was visited and adds what each pass has reached on its
own way.  Nothing is visited for a root that is no node with a name.  Otherwise one of the
passes stops the run, where the passes before have done all that they do and those behind
nothing; or the passes have all come to their ends, and the banner fails. -/
theorem generate_failure_contained (g : Graph) (o : Options) (root : Child) (m : Memo)
    (f : Failure) (h : (generate g o root m).result = .error f) :
    (∀ which : Section, ∃ ids,
      (m.get which).Gains ids (ids.filterMap g.nameOf?)
        ((generate g o root m).memo.get which) ∧
      ∀ id ∈ ids, which.Reaches g root id) ∧
    ((rootName g root = .error f ∧ (∀ id n, g.item root = .node id n → n.name = none) ∧
        (generate g o root m).memo = m) ∨
      ∃ id n rootText, g.item root = .node id n ∧ n.name = some rootText ∧
        ((∃ which : Section, which.Stops g o rootText root m f (generate g o root m).memo) ∨
          (bannerText o = .error f ∧ ∀ which, ∃ ds,
            Walk.walk g o (Pass.ofSection o (some rootText) which) root (m.get which) =
              ⟨.ok ds, (generate g o root m).memo.get which⟩))) := by
  refine ⟨fun which => (generate_growsWithin g o root m).gains which, ?_⟩
  rcases Run.andThen_eq_error h with ⟨hends, -⟩ | ⟨d, hreturns, hbanner, -⟩
  · rw [generate_memo]
    rcases runPasses_eq_error hends with ⟨hroot, hmemo⟩ | ⟨rootText, which, hroot, hfails⟩
    · exact .inl ⟨hroot, fun id n => name_eq_none_of_rootName_eq_error hroot, hmemo⟩
    · obtain ⟨id, n, hitem, hname⟩ := rootName_eq_ok_iff.mp hroot
      exact .inr ⟨id, n, rootText, hitem, hname, .inl ⟨which, hfails.stops⟩⟩
  · obtain ⟨rootText, hroot, hwalks⟩ := runPasses_eq_ok hreturns
    obtain ⟨id, n, hitem, hname⟩ := rootName_eq_ok_iff.mp hroot
    refine .inr ⟨id, n, rootText, hitem, hname, .inr ⟨map_eq_error hbanner, ?_⟩⟩
    intro which
    rw [generate_memo]
    exact ⟨d.get which, hwalks which⟩

/-- A ticket with a note and with a state, which is an enum without a name. -/
def ticketGraph : Graph := ⟨#[
  ⟨.interface [⟨some "note", .node 1, true, false, false⟩,
    ⟨some "state", .node 2, true, false, false⟩] [], some "ticket", none⟩,
  ⟨.string, some "note", none⟩,
  ⟨.enum [⟨some "Open", .node 3⟩], none, none⟩,
  ⟨.literal (.str "open"), none, none⟩]⟩

/-- All passes have visited notes. -/
def noteMemo : Memo := ⟨⟨[1], ["note"]⟩, ⟨[1], ["note"]⟩, ⟨[1], ["note"]⟩⟩

/-- The pass for interfaces fails at the ticket.  The pass for aliases has come to its end by
then, and that for enums has not begun. -/
theorem ticketGraph_failure_contained :
    let f : Failure := .unsupported (.node .enum none)
    let m' : Memo := ⟨⟨[2, 0, 1], ["ticket", "note"]⟩, ⟨[0, 1], ["ticket", "note"]⟩,
      ⟨[1], ["note"]⟩⟩
    generate ticketGraph .unbannered (.node 0) noteMemo = ⟨.error f, m'⟩ ∧
      (∀ which : Section, ∃ ids,
        (noteMemo.get which).Gains ids (ids.filterMap ticketGraph.nameOf?) (m'.get which) ∧
        ∀ id ∈ ids, which.Reaches ticketGraph (.node 0) id) ∧
      ∃ which : Section, which.Stops ticketGraph .unbannered "ticket" (.node 0) noteMemo f m' := by
  intro f m'
  have hfails : generate ticketGraph .unbannered (.node 0) noteMemo = ⟨.error f, m'⟩ := rfl
  obtain ⟨hgains, hends⟩ := generate_failure_contained ticketGraph .unbannered (.node 0) noteMemo f
    (congrArg Run.result hfails)
  rw [hfails] at hgains hends
  refine ⟨hfails, hgains, ?_⟩
  rcases hends with ⟨hroot, -⟩ | ⟨id, n, rootText, hitem, hname, hstops | ⟨hbanner, -⟩⟩
  · contradiction
  · obtain rfl : "ticket" = rootText := by
      obtain ⟨-, rfl⟩ := Item.node.inj hitem
      exact Option.some.inj hname
    exact hstops
  · contradiction

end SchemaDecls
