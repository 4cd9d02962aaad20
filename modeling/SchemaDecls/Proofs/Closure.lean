import SchemaDecls.Proofs.Bookkeeping

/-!
# What returning runs of a pass leave behind

A pass may be run from one root after another, each time from what has been
visited before.  `Section.Runs` are such runs, as long as all of them return.
What they leave behind is a closure of their roots (`Visited.IsClosureOf`), also
where several nodes bear one name.

Names do cost something.  A child of which only the name was met before is passed
over, and what only this child leads to stays out.  So each child of a node that
is kept counts as visited, by itself or by its name, but not all that the pass can
come to is kept.  The other way round nothing is kept without need: a way leads to
it from one of the roots, and all nodes on this way are kept as well.

A node is kept before its children are visited, so in the middle of a run the
nodes above the current one may have children that do not count as visited yet.
When the run returns, each node that it has added has had its turn, and none of
them is left open (`Visits.closed_of_closed`).  Hence the step of the induction is
a whole run and not a node.
-/

namespace SchemaDecls

/-- The pass of a section has been run from these roots, the last one first, and
has come from `v` to `w`; all runs have returned.  Each may have had options and a
name for the root of the file of its own. -/
inductive Section.Runs (which : Section) (g : Graph) (v : Visited) : List Child → Visited → Prop
  | none : Runs which g v [] v
  | next {roots : List Child} {root : Child} {u w : Visited} {ds : List Declared} (o : Options)
      (rootName : Option String) (hbefore : Runs which g v roots u)
      (hwalk : Walk.walk g o (Pass.ofSection o rootName which) root u = ⟨.ok ds, w⟩) :
      Runs which g v (root :: roots) w

/-- What has been visited is a closure of the roots for the pass of a section. -/
structure Visited.IsClosureOf (w : Visited) (which : Section) (g : Graph) (roots : List Child) :
    Prop where
  /-- Each root counts as visited. -/
  covers : ∀ root ∈ roots, w.Covers g root
  /-- So does each child to which the pass goes on from a node that is kept. -/
  closed : w.Closed which g
  /-- Each node that is kept lies on a way from a root through nodes that are kept. -/
  reached : ∀ id ∈ w.ids, ∃ root ∈ roots, which.ReachesWithin g w root id
  /-- To count as visited, a node must be kept itself or share the name of one that is. -/
  consistent : w.Consistent g

namespace Visited.IsClosureOf

variable {which : Section} {g : Graph} {roots : List Child} {root : Child} {o : Options}
  {rootName : Option String} {v w : Visited} {ds : List Declared}

theorem empty (which : Section) (g : Graph) : Visited.empty.IsClosureOf which g [] where
  covers _ hroot := absurd hroot List.not_mem_nil
  closed := closed_empty
  reached _ hid := absurd hid List.not_mem_nil
  consistent := .empty g

/-- One more run that returns adds its root. -/
theorem walk (h : v.IsClosureOf which g roots)
    (hwalk : Walk.walk g o (Pass.ofSection o rootName which) root v = ⟨.ok ds, w⟩) :
    w.IsClosureOf which g (root :: roots) := by
  have hvisits := visits_of_walk hwalk
  obtain ⟨ids, htrail, hreached⟩ := Pass.walk_reachesWithin o rootName g which root v
  rw [hwalk] at htrail hreached
  refine ⟨?_, hvisits.closed_of_closed h.closed, ?_, h.consistent.entered htrail⟩
  · intro other hother
    cases hother with
    | head => exact hvisits.covers (List.mem_singleton_self root)
    | tail _ hold => exact htrail.covers (h.covers other hold)
  · intro id hid
    by_cases hold : id ∈ v.ids
    · obtain ⟨other, hother, hway⟩ := h.reached id hold
      exact ⟨other, List.mem_cons_of_mem root hother, hway.later htrail⟩
    · have hnew : id ∈ ids := htrail.mem_iff.mpr ⟨hid, hold⟩
      exact ⟨root, List.mem_cons_self, hreached id hnew⟩

end Visited.IsClosureOf

/-- Runs that start from nothing and return leave a closure of their roots behind,
however many nodes share a name. -/
theorem Section.Runs.isClosureOf {which : Section} {g : Graph} {roots : List Child} {w : Visited}
    (h : which.Runs g .empty roots w) : w.IsClosureOf which g roots := by
  induction h with
  | none => exact .empty which g
  | next o rootName _ hwalk ih => exact ih.walk hwalk

/-- A line with its stops, which refer back to it.  The pair of positions that limits
the line is called a stop, too. -/
def lineGraph : Graph := ⟨#[
  ⟨.interface [⟨some "stops", .node 1, true, false, false⟩,
    ⟨some "limits", .node 3, false, false, false⟩] [], some "line", none⟩,
  ⟨.array (.node 2), some "stops", none⟩,
  ⟨.interface [⟨some "line", .node 0, true, false, false⟩] [], some "stop", none⟩,
  ⟨.tuple [.node 4, .node 4], some "stop", none⟩,
  ⟨.number, some "position", none⟩,
  ⟨.union [.node 3, .node 0], some "place", none⟩]⟩

/-- What the pass for aliases has visited after the line, its limits and a place. -/
def lineVisited : Visited := ⟨[5, 2, 1, 0], ["place", "stop", "stops", "line"]⟩

/-- The limits count as visited for their name, whether they are met below the line, are a
root themselves, or are met below a place.  So the position is never visited, although the line
leads to it. -/
theorem lineGraph_isClosure :
    Section.types.Runs lineGraph .empty [.node 5, .node 3, .node 0] lineVisited ∧
      Section.types.Reaches lineGraph (.node 0) 4 ∧ 4 ∉ lineVisited.ids ∧
      lineVisited.IsClosureOf .types lineGraph [.node 5, .node 3, .node 0] := by
  have hline : Walk.walk lineGraph .default (Pass.ofSection .default none .types) (.node 0) .empty =
      ⟨.ok [⟨1, "export type Stops = Stop[]"⟩], ⟨[2, 1, 0], ["stop", "stops", "line"]⟩⟩ :=
    congrArg₂ Outcome.mk (eq_ok_of_toOption (by decide +kernel)) rfl
  have hlimits : Walk.walk lineGraph .default (Pass.ofSection .default none .types) (.node 3)
      ⟨[2, 1, 0], ["stop", "stops", "line"]⟩ =
        ⟨.ok [], ⟨[2, 1, 0], ["stop", "stops", "line"]⟩⟩ := rfl
  have hplace : Walk.walk lineGraph .unbannered
      (Pass.ofSection .unbannered (some "place") .types) (.node 5)
      ⟨[2, 1, 0], ["stop", "stops", "line"]⟩ =
        ⟨.ok [⟨5, "export type Place = (Stop | Line)"⟩], lineVisited⟩ :=
    congrArg₂ Outcome.mk (eq_ok_of_toOption (by decide +kernel)) rfl
  have hruns : Section.types.Runs lineGraph .empty [.node 5, .node 3, .node 0] lineVisited :=
    .next _ _ (.next _ _ (.next _ _ .none hline) hlimits) hplace
  have hposition : Section.types.Reaches lineGraph (.node 3) 4 :=
    .step rfl ⟨by decide, List.mem_cons_self⟩ (.here rfl)
  have hleads : Section.types.Reaches lineGraph (.node 0) 4 :=
    .step rfl (.inl ⟨_, List.mem_cons_of_mem _ List.mem_cons_self, rfl⟩) hposition
  exact ⟨hruns, hleads, by decide, Section.Runs.isClosureOf hruns⟩

end SchemaDecls
