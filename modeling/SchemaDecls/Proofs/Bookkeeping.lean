import SchemaDecls.Proofs.Batch
import SchemaDecls.Proofs.Coverage

/-!
# Bookkeeping over sessions

What a pass has visited is kept in two indexes, the numbers of the nodes and their names.
Whether a node counts as visited is looked up in both.  The two agree if the names are
exactly those of the nodes (`Visited.Consistent`); then a node counts as visited exactly if
one of the nodes kept is that node, or bears its name (`Visited.Consistent.holds_iff`).

There are only three things that a request can do to what a pass has visited
(`Session.Touches`): empty it, add a node by hand, or add nodes as a walk does, each of
which did not count as visited when its turn came.  All three keep the indexes in agreement,
whether the request succeeds or fails.  The graph meanwhile only gains nodes
(`Graph.Extends`): a renamed node is a new one, and the nodes that are kept stay as they are.
The last of the three also keeps names distinct (`Visited.Consistent.namesDistinct`).  So
two nodes of one name can be kept only where nodes have been added by hand.
-/

namespace SchemaDecls

/-! ## Graphs that gain nodes -/

/-- The nodes of the other graph are nodes of this one, under the same numbers. -/
def Graph.Extends (g other : Graph) : Prop :=
  ∀ id n, other.get? id = some n → g.get? id = some n

namespace Graph.Extends

variable {g g' : Graph}

theorem refl (g : Graph) : g.Extends g := fun _ _ h => h

theorem push (g : Graph) (n : Node) : (g.push n).Extends g := by
  intro id m hm
  rw [get?_push_of_lt n (lt_size_of_get? hm)]
  exact hm

theorem nameOf?_eq (h : g'.Extends g) {id : NodeId} {n : Node} (hn : g.get? id = some n) :
    g'.nameOf? id = g.nameOf? id := by
  unfold nameOf?
  rw [hn, h id n hn]

end Graph.Extends

/-! ## Two indexes that agree -/

/-- The numbers are those of nodes, and the names are exactly the names of these nodes;
nothing is noted twice. -/
structure Visited.Consistent (v : Visited) (g : Graph) : Prop where
  exists_node : ∀ id ∈ v.ids, ∃ n, g.get? id = some n
  nodup_ids : v.ids.Nodup
  nodup_names : v.names.Nodup
  mem_names_iff : ∀ name, name ∈ v.names ↔ ∃ id ∈ v.ids, g.nameOf? id = some name

namespace Visited.Consistent

variable {g g' : Graph} {v w : Visited} {ids : List NodeId} {id : NodeId} {n : Node}

theorem empty (g : Graph) : Visited.empty.Consistent g := by
  refine ⟨?_, List.nodup_nil, List.nodup_nil, ?_⟩
  · intro id hid
    contradiction
  · intro name
    simp [Visited.empty]

/-- A node is added to both indexes at once. -/
theorem insert (h : v.Consistent g) (hn : g.get? id = some n) : (v.insert id n).Consistent g where
  exists_node other hother := by
    rcases mem_ids_insert.mp hother with rfl | hother
    · exact ⟨n, hn⟩
    · exact h.exists_node other hother
  nodup_ids := h.nodup_ids.insert
  nodup_names := by
    cases hname : n.name with
    | none => simpa [Visited.insert, hname] using h.nodup_names
    | some name => simpa [Visited.insert, hname] using h.nodup_names.insert
  mem_names_iff name := by
    have hid : g.nameOf? id = some name ↔ n.name = some name := by simp [Graph.nameOf?, hn]
    rw [mem_names_insert, h.mem_names_iff]
    simp only [mem_ids_insert, exists_eq_or_imp, hid]

theorem entered (h : v.Consistent g) (htrail : Entered g v ids w) : w.Consistent g := by
  induction htrail with
  | nil => exact h
  | cons _ hn _ ih => exact ih.insert hn

/-- The nodes that are kept do not change when the graph gains others. -/
theorem of_extends (h : v.Consistent g) (hextends : g'.Extends g) : v.Consistent g' where
  exists_node id hid := by
    obtain ⟨n, hn⟩ := h.exists_node id hid
    exact ⟨n, hextends id n hn⟩
  nodup_ids := h.nodup_ids
  nodup_names := h.nodup_names
  mem_names_iff name := by
    rw [h.mem_names_iff]
    apply exists_congr
    intro id
    apply and_congr_right
    intro hid
    obtain ⟨n, hn⟩ := h.exists_node id hid
    rw [hextends.nameOf?_eq hn]

/-- A node counts as visited if it is kept, or one of its name is. -/
theorem holds_iff (h : v.Consistent g) (id : NodeId) (n : Node) :
    v.holds id n = true ↔
      ∃ other ∈ v.ids, other = id ∨ ∃ name, n.name = some name ∧ g.nameOf? other = some name := by
  simp only [Visited.holds_iff, h.mem_names_iff]
  constructor
  · rintro (hid | ⟨name, hname, other, hother, hsame⟩)
    · exact ⟨id, hid, .inl rfl⟩
    · exact ⟨other, hother, .inr ⟨name, hname, hsame⟩⟩
  · rintro ⟨other, hother, rfl | ⟨name, hname, hsame⟩⟩
    · exact .inl hother
    · exact .inr ⟨name, hname, other, hother, hsame⟩

/-- A walk adds no second node of a name. -/
theorem namesDistinct (h : v.Consistent g) (hdistinct : g.NamesDistinct (· ∈ v.ids))
    (htrail : Entered g v ids w) : g.NamesDistinct (· ∈ w.ids) := by
  -- What is new on the trail bears no name that was there before.
  have hnew : ∀ a b name, a ∈ ids → b ∈ v.ids → g.nameOf? a = some name →
      g.nameOf? b ≠ some name := by
    intro a b name ha hb hna hnb
    obtain ⟨n, hn, hname⟩ := Graph.nameOf?_eq_some_iff.mp hna
    exact not_mem_names_of_holds_eq_false (htrail.holds_eq_false ha hn) hname
      ((h.mem_names_iff name).mpr ⟨b, hb, hnb⟩)
  intro a b name ha hb hna hnb
  simp only [htrail.ids_eq, List.mem_append] at ha hb
  rcases ha with ha | ha <;> rcases hb with hb | hb
  · exact htrail.eq_of_nameOf?_eq ha hb hna hnb
  · exact absurd hnb (hnew a b name ha hb hna)
  · exact absurd hna (hnew b a name hb ha hnb)
  · exact hdistinct a b name ha hb hna hnb

end Visited.Consistent

theorem Graph.NamesDistinct.of_empty (g : Graph) : g.NamesDistinct (· ∈ Visited.empty.ids) := by
  intro a b name ha
  contradiction

theorem Graph.NamesDistinct.of_extends {g g' : Graph} {v : Visited}
    (h : g.NamesDistinct (· ∈ v.ids)) (hv : v.Consistent g) (hextends : g'.Extends g) :
    g'.NamesDistinct (· ∈ v.ids) := by
  intro a b name ha hb hna hnb
  obtain ⟨n, hn⟩ := hv.exists_node a ha
  obtain ⟨m, hm⟩ := hv.exists_node b hb
  rw [hextends.nameOf?_eq hn] at hna
  rw [hextends.nameOf?_eq hm] at hnb
  exact h a b name ha hb hna hnb

/-! ## One request -/

/-- The request makes the pass forget what it has visited. -/
def Request.Empties (which : Section) : Request → Prop
  | .reset => True
  | .clear other => other = which
  | _ => False

/-- The request adds a node by hand to what the pass has visited. -/
def Request.AddsTo (which : Section) : Request → Prop
  | .add other _ => other = which
  | _ => False

namespace Session

/-- What a request can do to what a pass has visited. -/
inductive Touches (s : Session) (which : Section) (request : Request) (w : Visited) : Prop
  | emptied (h : request.Empties which) (hw : w = .empty)
  | added {id : NodeId} {n : Node} (h : request = .add which id) (hn : s.graph.get? id = some n)
      (hw : w = (s.memo.get which).insert id n)
  | grown {ids : List NodeId} (htrail : Entered s.graph (s.memo.get which) ids w)

variable {s : Session} {which : Section} {request : Request} {requests : List Request}

theorem step_extends (s : Session) (request : Request) :
    (s.step request).2.graph.Extends s.graph := by
  cases request with
  | rename id name =>
      simp only [step, withNode]
      split
      · exact .push s.graph _
      · exact .refl s.graph
  | add | contains | describe =>
      simp only [step, withNode]
      split <;> exact .refl s.graph
  | _ => exact .refl s.graph

/-- What a request does not touch is as it was. -/
theorem Touches.of_eq {w : Visited} (h : w = s.memo.get which) : s.Touches which request w := by
  subst h
  exact .grown .nil

/-- What one request does to what a pass has visited, whether it succeeds or fails. -/
theorem step_touches (s : Session) (request : Request) (which : Section) :
    s.Touches which request ((s.step request).2.memo.get which) := by
  cases request with
  | generate root =>
      obtain ⟨ids, htrail⟩ := generate_grows s.graph s.options root s.memo which
      exact .grown htrail
  | declare other root rootName =>
      have hgrows : Memo.Grows s.graph s.memo (s.step (.declare other root rootName)).2.memo := by
        apply Memo.GrowsWithin.grows
        apply Run.andThen_growsWithin (runSection_growsWithin s.graph s.options _ _ root s.memo)
        intro declared m
        exact .refl m
      obtain ⟨ids, htrail⟩ := hgrows which
      exact .grown htrail
  | reset => exact .emptied trivial (Memo.get_empty which)
  | clear other =>
      by_cases hsame : other = which
      · subst hsame
        exact .emptied rfl (Memo.get_set_self s.memo other .empty)
      · exact .of_eq (Memo.get_set_of_ne s.memo .empty (Ne.symm hsame))
  | add other id =>
      simp only [step, withNode]
      split
      · rename_i n hn
        by_cases hsame : other = which
        · subst hsame
          exact .added rfl hn (Memo.get_set_self s.memo other _)
        · exact .of_eq (Memo.get_set_of_ne s.memo _ (Ne.symm hsame))
      · exact .of_eq rfl
  | contains | rename | describe =>
      simp only [step, withNode]
      split <;> exact .of_eq rfl
  | setOptions | render => exact .of_eq rfl

namespace Touches

variable {w : Visited}

/-- Whatever is done to the indexes, they stay in agreement. -/
theorem consistent (h : s.Touches which request w) (hs : (s.memo.get which).Consistent s.graph) :
    w.Consistent s.graph := by
  cases h with
  | emptied _ hw =>
      subst hw
      exact .empty s.graph
  | added _ hn hw =>
      subst hw
      exact hs.insert hn
  | grown htrail => exact hs.entered htrail

/-- And no second node of a name comes in, unless one is added by hand. -/
theorem namesDistinct (h : s.Touches which request w)
    (hs : (s.memo.get which).Consistent s.graph)
    (hdistinct : s.graph.NamesDistinct (· ∈ (s.memo.get which).ids))
    (hadds : ¬ request.AddsTo which) : s.graph.NamesDistinct (· ∈ w.ids) := by
  cases h with
  | emptied _ hw =>
      subst hw
      exact .of_empty s.graph
  | added hother _ _ =>
      subst hother
      exact absurd rfl hadds
  | grown htrail => exact hs.namesDistinct hdistinct htrail

end Touches

theorem consistent_step (h : (s.memo.get which).Consistent s.graph) (request : Request) :
    ((s.step request).2.memo.get which).Consistent (s.step request).2.graph :=
  ((s.step_touches request which).consistent h).of_extends (s.step_extends request)

theorem namesDistinct_step (h : (s.memo.get which).Consistent s.graph)
    (hdistinct : s.graph.NamesDistinct (· ∈ (s.memo.get which).ids))
    (hadds : ¬ request.AddsTo which) :
    (s.step request).2.graph.NamesDistinct (· ∈ ((s.step request).2.memo.get which).ids) := by
  have htouches := s.step_touches request which
  exact (htouches.namesDistinct h hdistinct hadds).of_extends (htouches.consistent h)
    (s.step_extends request)

/-- A pass that is made to forget keeps no node, and so no two of one name. -/
theorem namesDistinct_of_empties (s : Session) (h : request.Empties which) :
    (s.step request).2.graph.NamesDistinct (· ∈ ((s.step request).2.memo.get which).ids) := by
  have hempty : (s.step request).2.memo.get which = .empty := by
    cases request with
    | reset => exact Memo.get_empty which
    | clear other =>
        obtain rfl : other = which := h
        exact Memo.get_set_self s.memo other .empty
    | _ => exact h.elim
  rw [hempty]
  exact .of_empty _

/-! ## Whole sessions -/

theorem consistent_after (h : (s.memo.get which).Consistent s.graph) (requests : List Request) :
    ((s.after requests).memo.get which).Consistent (s.after requests).graph := by
  induction requests generalizing s with
  | nil => exact h
  | cons request rest ih => exact ih (consistent_step h request)

theorem namesDistinct_after (h : (s.memo.get which).Consistent s.graph)
    (hdistinct : s.graph.NamesDistinct (· ∈ (s.memo.get which).ids))
    (hadds : ∀ r ∈ requests, ¬ r.AddsTo which) :
    (s.after requests).graph.NamesDistinct (· ∈ ((s.after requests).memo.get which).ids) := by
  induction requests generalizing s with
  | nil => exact hdistinct
  | cons request rest ih =>
      obtain ⟨hfirst, hrest⟩ := List.forall_mem_cons.mp hadds
      exact ih (consistent_step h request) (namesDistinct_step h hdistinct hfirst) hrest

/-- No node has been added by hand since the pass was last made to forget, or since the
start. -/
def NoneAdded (which : Section) (requests : List Request) : Prop :=
  (∀ r ∈ requests, ¬ r.AddsTo which) ∨
    ∃ before r rest, requests = before ++ r :: rest ∧ r.Empties which ∧
      ∀ later ∈ rest, ¬ later.AddsTo which

/-- After any requests, whether they have succeeded or failed, the two indexes agree, and
the question whether a node counts as visited is answered by looking for the node itself
and for its name among the nodes that are kept.  If none of these has been added by hand,
no two of them share a name. -/
theorem bookkeeping (g : Graph) (o : Options) (requests : List Request) (which : Section) :
    let s := (start g o).after requests
    (s.memo.get which).Consistent s.graph ∧
      (∀ id n, s.graph.get? id = some n →
        ∃ b, (s.step (.contains which id)).1 = .ok (.truth b) ∧
          (b = true ↔ ∃ other ∈ (s.memo.get which).ids, other = id ∨
            ∃ name, n.name = some name ∧ s.graph.nameOf? other = some name)) ∧
      (NoneAdded which requests → s.graph.NamesDistinct (· ∈ (s.memo.get which).ids)) := by
  have hstart : ((start g o).memo.get which).Consistent g := by
    rw [show (start g o).memo.get which = .empty from Memo.get_empty which]
    exact .empty g
  have hfresh : g.NamesDistinct (· ∈ ((start g o).memo.get which).ids) := by
    rw [show (start g o).memo.get which = .empty from Memo.get_empty which]
    exact .of_empty g
  have hconsistent := consistent_after hstart requests
  refine ⟨hconsistent, ?_, ?_⟩
  · intro id n hn
    refine ⟨(((start g o).after requests).memo.get which).holds id n, ?_,
      hconsistent.holds_iff id n⟩
    simp only [step, withNode, hn]
  · rintro (hadds | ⟨before, r, rest, rfl, hempties, hadds⟩)
    · exact namesDistinct_after hstart hfresh hadds
    · have hemptied := consistent_step (consistent_after hstart before) r
      have hrest := namesDistinct_after hemptied (namesDistinct_of_empties _ hempties) hadds
      rw [after_append]
      exact hrest

/-- A forest is added by hand and forgotten; then a copy of it is written under another
name, and in between requests fail. -/
def groveRequests : List Request :=
  [.add .types 1, .generate (.value .null), .clear .types, .rename 1 (some "grove"),
    .add .interfaces 9, .generate (.node 4), .declare .enums (.node 3) none]

theorem groveRequests_bookkeeping :
    let s := (start treeGraph .unbannered).after groveRequests
    NoneAdded .types groveRequests ∧ (s.memo.get .types).ids = [2, 1, 0, 4] ∧
      (s.memo.get .types).names = ["color", "forest", "tree", "grove"] ∧
      (s.memo.get .types).Consistent s.graph ∧
      (∀ id n, s.graph.get? id = some n →
        ∃ b, (s.step (.contains .types id)).1 = .ok (.truth b) ∧
          (b = true ↔ ∃ other ∈ (s.memo.get .types).ids, other = id ∨
            ∃ name, n.name = some name ∧ s.graph.nameOf? other = some name)) ∧
      s.graph.NamesDistinct (· ∈ (s.memo.get .types).ids) := by
  have hnone : NoneAdded .types groveRequests := .inr ⟨groveRequests.take 2, .clear .types,
    groveRequests.drop 3, rfl, rfl, by simp [groveRequests, Request.AddsTo]⟩
  obtain ⟨hconsistent, hcontains, hdistinct⟩ :=
    bookkeeping treeGraph .unbannered groveRequests .types
  exact ⟨hnone, by decide +kernel, by decide +kernel, hconsistent, hcontains, hdistinct hnone⟩

/-- Nodes that are added by hand may share a name. -/
example :
    let g : Graph := ⟨#[⟨.string, some "item", none⟩, ⟨.number, some "item", none⟩]⟩
    (((start g .unbannered).after [.add .types 0, .add .types 1]).memo.get .types).ids = [1, 0] :=
  rfl

end Session

end SchemaDecls
