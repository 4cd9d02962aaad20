import SchemaDecls.Proofs.Termination
import SchemaDecls.Proofs.TypeTrees

/-!
# Type expressions are unambiguous

A graph depicts a tree where unnamed arrays, tuples, unions and intersections are nested as
in the tree, down to whatever has a word for its expression (`TypeExpr.Depicts`).  Its
expression is then the text of the tree, and two of them have one expression exactly if
their trees have one normal form (`TypeExpr.render_eq_iff_normal`).

The graph may have cycles elsewhere, and a node may be met on several ways.  What has to be
excluded is that the tree is deeper than the expansion goes.  An expansion that ends at some
depth does not meet a node within itself, so that it is no deeper than there are nodes
(`TypeExpr.Expands.within_size`).
-/

namespace SchemaDecls.TypeExpr

variable {g g' : Graph} {c c' : Child} {levels levels' depth : Nat}
  {result result' : Except Failure String}

/-! ## Expansions that end -/

theorem Expands.mono (h : Expands g levels c result) (hle : levels ≤ levels') :
    Expands g levels' c result := by
  induction h generalizing levels' with
  | value hitem =>
      obtain ⟨k, rfl⟩ : ∃ k, levels' = k + 1 := ⟨levels' - 1, by omega⟩
      exact .value hitem
  | named hitem hname =>
      obtain ⟨k, rfl⟩ : ∃ k, levels' = k + 1 := ⟨levels' - 1, by omega⟩
      exact .named hitem hname
  | unnamed hitem hname _ ih =>
      obtain ⟨k, rfl⟩ : ∃ k, levels' = k + 1 := ⟨levels' - 1, by omega⟩
      exact .unnamed hitem hname fun d hd => ih d hd (by omega)

/-- However deep it may go, an expansion has one result. -/
theorem Expands.unique (h : Expands g levels c result) (h' : Expands g levels' c result') :
    result = result' := by
  rw [← h.renderUpTo_eq (Nat.le_max_left levels levels'),
    h'.renderUpTo_eq (Nat.le_max_right levels levels')]

/-- An expression is the result of an expansion that ends. -/
theorem expands_of_renderUpTo {text : String} (h : renderUpTo g depth c = .ok text) :
    Expands g depth c (.ok text) := by
  induction depth generalizing c text with
  | zero => contradiction
  | succ depth ih =>
      rw [← h]
      cases hitem : g.item c with
      | value v =>
          rw [renderUpTo_of_value hitem]
          exact .value hitem
      | node id n =>
          cases hname : n.name with
          | some name =>
              rw [renderUpTo_of_name hitem hname]
              exact .named hitem hname
          | none =>
              rw [renderUpTo_of_unnamed hitem hname] at h ⊢
              apply Expands.unnamed hitem hname
              intro d hd
              obtain ⟨part, hpart, -⟩ := expandWith_eq_ok h hd
              rw [hpart]
              exact ih hpart

/-- Where an expansion needs all of its levels, so does that of a child with one level less. -/
theorem Expands.exists_child (h : Expands g (levels + 2) c result)
    (hdeep : ∀ r, ¬ Expands g (levels + 1) c r) :
    ∃ id n, g.item c = .node id n ∧ ∃ d r, Expands g (levels + 1) d r ∧
      ∀ r, ¬ Expands g levels d r := by
  cases h with
  | value hitem => exact absurd (.value hitem) (hdeep _)
  | named hitem hname => exact absurd (.named hitem hname) (hdeep _)
  | @unnamed _ _ id n childText hitem hname hchildren =>
      refine ⟨id, n, hitem, ?_⟩
      by_contra hshallow
      apply hdeep (expandWith g childText n.shape)
      apply Expands.unnamed hitem hname
      intro d hd
      have hless : ∃ r, Expands g levels d r := by
        by_contra hnone
        exact hshallow ⟨d, _, hchildren d hd, fun r hr => hnone ⟨r, hr⟩⟩
      obtain ⟨r, hr⟩ := hless
      rwa [hr.unique (hchildren d hd)] at hr

/-- The nodes on the way down are different, one for each level but the last. -/
theorem Expands.exists_distinct (h : Expands g (levels + 1) c result)
    (hdeep : ∀ r, ¬ Expands g levels c r) :
    ∃ ids ⊆ Finset.range g.size, ids.card = levels ∧
      ∀ id ∈ ids, ∃ r, Expands g (levels + 1) (.node id) r := by
  induction levels generalizing c result with
  | zero => exact ⟨∅, Finset.empty_subset _, rfl, by simp⟩
  | succ levels ih =>
      obtain ⟨id, n, hitem, d, r, hd, hddeep⟩ := h.exists_child hdeep
      obtain ⟨ids, hrange, hcard, hids⟩ := ih hd hddeep
      obtain ⟨rfl, hn⟩ := Graph.item_eq_node_iff.mp hitem
      -- All nodes below the child expand with one level less, and this one does not.
      have hnew : id ∉ ids := fun hmem => by
        obtain ⟨r, hr⟩ := hids id hmem
        exact hdeep r hr
      refine ⟨insert id ids, ?_, ?_, ?_⟩
      · intro other hother
        rcases Finset.mem_insert.mp hother with rfl | hother
        · exact Finset.mem_range.mpr (Graph.lt_size_of_get? hn)
        · exact hrange hother
      · rw [Finset.card_insert_of_notMem hnew, hcard]
      · intro other hother
        rcases Finset.mem_insert.mp hother with rfl | hother
        · exact ⟨_, h⟩
        · obtain ⟨r, hr⟩ := hids other hother
          exact ⟨r, hr.mono (Nat.le_succ _)⟩

/-- An expansion that ends is no deeper than there are nodes. -/
theorem Expands.within_size (h : Expands g levels c result) :
    Expands g (g.size + 1) c result := by
  induction levels generalizing result with
  | zero => cases h
  | succ levels ih =>
      by_cases hless : ∃ r, Expands g levels c r
      · obtain ⟨r, hr⟩ := hless
        rw [h.unique hr]
        exact ih hr
      · obtain ⟨ids, hrange, hcard, -⟩ := h.exists_distinct fun r hr => hless ⟨r, hr⟩
        have hle := Finset.card_le_card hrange
        rw [Finset.card_range, hcard] at hle
        exact h.mono (by omega)

/-- Its result is the expression of the child, whatever cycles there are elsewhere. -/
theorem Expands.render_eq (h : Expands g levels c result) : render g c = result :=
  h.within_size.renderUpTo_eq (Nat.le_refl _)

/-! ## Trees that a graph depicts -/

/-- Below the child, unnamed nodes are nested as in the tree.  What stands for a leaf may be
any child whose expression is a word. -/
inductive Depicts (g : Graph) : Child → Tree → Prop
  | leaf {c : Child} {text : String} (hrender : render g c = .ok text) (hword : IsWord text) :
      Depicts g c (.leaf text)
  | array {c element : Child} {id : NodeId} {n : Node} {t : Tree}
      (hitem : g.item c = .node id n) (hname : n.name = none)
      (hshape : n.shape = .array element) (h : Depicts g element t) : Depicts g c (.array t)
  | joined {c : Child} {id : NodeId} {n : Node} {joint : Joint} {members : List (Child × Tree)}
      (hitem : g.item c = .node id n) (hname : n.name = none)
      (hshape : n.shape = joint.shape (members.map Prod.fst))
      (h : ∀ m ∈ members, Depicts g m.1 m.2) :
      Depicts g c (.joined joint (members.map Prod.snd))

theorem Depicts.worded {t : Tree} (h : Depicts g c t) : t.Worded := by
  induction h with
  | leaf _ hword => exact .leaf hword
  | array _ _ _ _ ih => exact .array ih
  | joined _ _ _ _ ih =>
      apply Tree.Worded.joined
      intro t ht
      obtain ⟨m, hm, rfl⟩ := List.mem_map.mp ht
      exact ih m hm

/-- The expression of an unnamed node is put together from those of its children, if their
expansions end. -/
theorem expands_of_unnamed {id : NodeId} {n : Node} (hitem : g.item c = .node id n)
    (hname : n.name = none)
    (h : ∀ d ∈ n.shape.written, ∃ levels, Expands g levels d (render g d)) :
    Expands g (g.size + 2) c (expandWith g (render g) n.shape) := by
  apply Expands.unnamed hitem hname
  intro d hd
  obtain ⟨levels, hlevels⟩ := h d hd
  exact hlevels.within_size

theorem Joint.written_shape (joint : Joint) (cs : List Child) :
    (joint.shape cs).written = cs := by
  cases joint <;> rfl

theorem Joint.expandWith_shape (joint : Joint) (f : Child → Except Failure String)
    (cs : List Child) : expandWith g f (joint.shape cs) = (cs.mapM f).map joint.text := by
  cases joint <;> rfl

theorem mapM_render {members : List (Child × Tree)}
    (h : ∀ m ∈ members, render g m.1 = .ok m.2.text) :
    (members.map Prod.fst).mapM (render g) = .ok ((members.map Prod.snd).map Tree.text) := by
  induction members with
  | nil => rfl
  | cons m members ih =>
      obtain ⟨hm, hmembers⟩ := List.forall_mem_cons.mp h
      rw [List.map_cons, List.mapM_cons, hm, ih hmembers]
      rfl

/-- What depicts a tree is written as the text of the tree. -/
theorem Depicts.expands {t : Tree} (h : Depicts g c t) :
    ∃ levels, Expands g levels c (.ok t.text) := by
  induction h with
  | leaf hrender _ => exact ⟨_, expands_of_renderUpTo hrender⟩
  | @array c element id n t hitem hname hshape _ ih =>
      obtain ⟨levels, helement⟩ := ih
      have hwritten : expandWith g (render g) n.shape = .ok (Tree.array t).text := by
        rw [hshape, expandWith, helement.render_eq]
        rfl
      refine ⟨_, hwritten ▸ expands_of_unnamed hitem hname ?_⟩
      intro d hd
      rw [hshape] at hd
      obtain rfl : d = element := List.mem_singleton.mp hd
      exact ⟨levels, helement.render_eq ▸ helement⟩
  | @joined c id n joint members hitem hname hshape _ ih =>
      have hrender : ∀ m ∈ members, render g m.1 = .ok m.2.text := by
        intro m hm
        obtain ⟨levels, hexpands⟩ := ih m hm
        exact hexpands.render_eq
      have hwritten : expandWith g (render g) n.shape =
          .ok (Tree.joined joint (members.map Prod.snd)).text := by
        rw [hshape, joint.expandWith_shape, mapM_render hrender, Tree.text_joined]
        rfl
      refine ⟨_, hwritten ▸ expands_of_unnamed hitem hname ?_⟩
      intro d hd
      rw [hshape, joint.written_shape] at hd
      obtain ⟨m, hm, rfl⟩ := List.mem_map.mp hd
      obtain ⟨levels, hexpands⟩ := ih m hm
      exact ⟨levels, hexpands.render_eq ▸ hexpands⟩

theorem Depicts.render_eq {t : Tree} (h : Depicts g c t) : render g c = .ok t.text := by
  obtain ⟨levels, hexpands⟩ := h.expands
  exact hexpands.render_eq

/-- Two children that depict trees have the same expression exactly if the trees have the
same normal form: if they are the same once single members of unions and intersections
stand by themselves and empty intersections are taken for empty unions. -/
theorem render_eq_iff_normal {t t' : Tree} (h : Depicts g c t) (h' : Depicts g' c' t') :
    render g c = render g' c' ↔ t.normal = t'.normal := by
  rw [h.render_eq, h'.render_eq, ← h.worded.text_eq_iff h'.worded]
  exact ⟨Except.ok.inj, congrArg Except.ok⟩

/-- Seats in two ways.  The first array is one of a union with one member, and the places
that are left are written as an intersection there and as a union here. -/
def seatGraph : Graph := ⟨#[
  ⟨.array (.node 1), none, none⟩,
  ⟨.union [.node 2], none, none⟩,
  ⟨.tuple [.node 3, .node 4], none, none⟩,
  ⟨.string, none, none⟩,
  ⟨.intersection [], none, none⟩,
  ⟨.array (.node 6), none, none⟩,
  ⟨.tuple [.node 3, .node 7], none, none⟩,
  ⟨.union [], none, none⟩]⟩

/-- The tree of the first array. -/
def wrappedSeats : Tree :=
  .array (.joined .union [.joined .tuple [.leaf "string", .joined .intersection []]])

/-- The tree of the second one. -/
def plainSeats : Tree := .array (.joined .tuple [.leaf "string", .joined .union []])

theorem seatGraph_render_eq_iff_normal :
    Depicts seatGraph (.node 0) wrappedSeats ∧ Depicts seatGraph (.node 5) plainSeats ∧
      (render seatGraph (.node 0) = render seatGraph (.node 5) ↔
        wrappedSeats.normal = plainSeats.normal) := by
  have hseat : Depicts seatGraph (.node 3) (.leaf "string") :=
    .leaf rfl ⟨by decide, List.all_eq_true.mp (by decide)⟩
  have hpair : ∀ {id : NodeId} {n : Node} {other : Child} {t : Tree},
      seatGraph.item (.node id) = .node id n → n.name = none →
      n.shape = .tuple [.node 3, other] → Depicts seatGraph other t →
      Depicts seatGraph (.node id) (.joined .tuple [.leaf "string", t]) := by
    intro id n other t hitem hname hshape h
    refine @Depicts.joined _ _ id n .tuple [(.node 3, .leaf "string"), (other, t)] hitem hname
      hshape ?_
    rintro m (_ | ⟨_, _ | ⟨_, hm⟩⟩)
    · exact hseat
    · exact h
    · contradiction
  have hwrapped : Depicts seatGraph (.node 0) wrappedSeats := by
    refine .array rfl rfl rfl (@Depicts.joined _ _ 1 _ .union [(.node 2, _)] rfl rfl rfl ?_)
    rintro m (_ | ⟨_, hm⟩)
    · exact hpair rfl rfl rfl (@Depicts.joined _ _ 4 _ .intersection [] rfl rfl rfl (by simp))
    · contradiction
  have hplain : Depicts seatGraph (.node 5) plainSeats :=
    .array rfl rfl rfl (hpair rfl rfl rfl
      (@Depicts.joined _ _ 7 _ .union [] rfl rfl rfl (by simp)))
  exact ⟨hwrapped, hplain, render_eq_iff_normal hwrapped hplain⟩

end SchemaDecls.TypeExpr
