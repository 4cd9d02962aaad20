import Mathlib.Data.List.Nodup
import Mathlib.Data.List.Perm.Subperm
import SchemaDecls.Schema.Graph
import SchemaDecls.Visited

/-!
# Trails of visited nodes

A pass adds to what it has visited one node at a time, and only nodes that do
not count as visited yet.  `Entered g v ids w` says that `w` comes about from
`v` in this way, and `ids` is the trail that led there.

The trail carries both indexes of `Visited` at once: the numbers of the
visited nodes grow by the trail itself (`Entered.ids_eq`), their names by the
names on it (`Entered.names_eq`).  Since no node is added that counts as
visited, no number and no name occurs twice on a trail (`Entered.nodup`,
`Entered.nodup_names`).  Trails can be put one behind the other
(`Entered.trans`), so all this holds of whole sessions as well as of one walk.

What a pass declares lies on its trail (`DeclaresAlong`), so no name is
declared twice along a trail either (`DeclaresAlong.nodup_names`).
-/

namespace SchemaDecls

/-- The standalone name of the node with this number. -/
def Graph.nameOf? (g : Graph) (id : NodeId) : Option String :=
  (g.get? id).bind Node.name

theorem Graph.nameOf?_eq_some_iff {g : Graph} {id : NodeId} {name : String} :
    g.nameOf? id = some name ↔ ∃ n, g.get? id = some n ∧ n.name = some name := by
  simp [nameOf?, Option.bind_eq_some_iff]

namespace Visited

/-- A node that does not count as visited is not among the numbers. -/
theorem not_mem_ids_of_holds_eq_false {v : Visited} {id : NodeId} {n : Node}
    (h : v.holds id n = false) : id ∉ v.ids := by
  intro hid
  rw [holds_iff.mpr (.inl hid)] at h
  contradiction

/-- Nor is its name among the names. -/
theorem not_mem_names_of_holds_eq_false {v : Visited} {id : NodeId} {n : Node} {name : String}
    (h : v.holds id n = false) (hname : n.name = some name) : name ∉ v.names := by
  intro hmem
  rw [holds_iff.mpr (.inr ⟨name, hname, hmem⟩)] at h
  contradiction

/-- A node that is new to the set goes in front. -/
theorem ids_insert_of_holds_eq_false {v : Visited} {id : NodeId} {n : Node}
    (h : v.holds id n = false) : (v.insert id n).ids = id :: v.ids :=
  List.insert_of_not_mem (not_mem_ids_of_holds_eq_false h)

/-- And so does its name. -/
theorem names_insert_of_holds_eq_false {v : Visited} {id : NodeId} {n : Node} {name : String}
    (h : v.holds id n = false) (hname : n.name = some name) :
    (v.insert id n).names = name :: v.names := by
  unfold insert
  simp only [hname]
  exact List.insert_of_not_mem (not_mem_names_of_holds_eq_false h hname)

/-- What counts as visited still does when one more node is remembered. -/
theorem holds_insert_of_holds {v : Visited} {id other : NodeId} {n m : Node}
    (h : v.holds other m = true) : (v.insert id n).holds other m = true := by
  rcases holds_iff.mp h with hid | ⟨name, hname, hmem⟩
  · exact holds_iff.mpr (.inl (mem_ids_insert.mpr (.inr hid)))
  · exact holds_iff.mpr (.inr ⟨name, hname, mem_names_insert.mpr (.inr hmem)⟩)

end Visited

/-- `w` comes about from `v` by adding the nodes `ids`, the last one first,
none of which counted as visited when its turn came. -/
inductive Entered (g : Graph) (v : Visited) : List NodeId → Visited → Prop
  | nil : Entered g v [] v
  | cons {ids : List NodeId} {w : Visited} {id : NodeId} {n : Node} (hw : Entered g v ids w)
      (hn : g.get? id = some n) (hnew : w.holds id n = false) :
      Entered g v (id :: ids) (w.insert id n)

namespace Entered

variable {g : Graph} {u v w : Visited} {ids more : List NodeId}

/-- The trail that consists of one node. -/
theorem single {id : NodeId} {n : Node} (hn : g.get? id = some n) (hnew : v.holds id n = false) :
    Entered g v [id] (v.insert id n) :=
  .cons .nil hn hnew

/-- One trail behind the other is a trail. -/
theorem trans (huv : Entered g u ids v) (hvw : Entered g v more w) :
    Entered g u (more ++ ids) w := by
  induction hvw with
  | nil => exact huv
  | cons _ hn hnew ih => exact .cons ih hn hnew

/-- The numbers in the set grow by those of the trail. -/
theorem ids_eq (h : Entered g v ids w) : w.ids = ids ++ v.ids := by
  induction h with
  | nil => rfl
  | cons _ _ hnew ih =>
      rw [Visited.ids_insert_of_holds_eq_false hnew, ih]
      rfl

/-- The names in the set grow by those of the trail, none of which was there before. -/
theorem names_eq (h : Entered g v ids w) : w.names = ids.filterMap g.nameOf? ++ v.names := by
  induction h with
  | nil => rfl
  | @cons ids w id n _ hn hnew ih =>
      cases hname : n.name with
      | none =>
          have hid : g.nameOf? id = none := by simp [Graph.nameOf?, hn, hname]
          rw [List.filterMap_cons_none hid, ← ih]
          simp [Visited.insert, hname]
      | some name =>
          have hid : g.nameOf? id = some name := by simp [Graph.nameOf?, hn, hname]
          rw [List.filterMap_cons_some hid, Visited.names_insert_of_holds_eq_false hnew hname, ih]
          rfl

theorem mem_names_iff (h : Entered g v ids w) {name : String} :
    name ∈ w.names ↔ (∃ id ∈ ids, g.nameOf? id = some name) ∨ name ∈ v.names := by
  rw [h.names_eq, List.mem_append, List.mem_filterMap]

/-- Every number on a trail is that of a node. -/
theorem exists_get? (h : Entered g v ids w) {id : NodeId} (hid : id ∈ ids) :
    ∃ n, g.get? id = some n := by
  induction h with
  | nil => contradiction
  | cons _ hn _ ih =>
      rcases List.mem_cons.mp hid with rfl | hold
      · exact ⟨_, hn⟩
      · exact ih hold

/-- What counted as visited before the trail does so after it. -/
theorem holds (h : Entered g v ids w) {id : NodeId} {n : Node} (hv : v.holds id n = true) :
    w.holds id n = true := by
  induction h with
  | nil => exact hv
  | cons _ _ _ ih => exact Visited.holds_insert_of_holds ih

theorem mem_ids (h : Entered g v ids w) {id : NodeId} (hid : id ∈ v.ids) : id ∈ w.ids := by
  rw [h.ids_eq]
  exact List.mem_append_right _ hid

/-- The trail visits nothing that counted as visited before it. -/
theorem holds_eq_false (h : Entered g v ids w) {id : NodeId} {n : Node} (hid : id ∈ ids)
    (hn : g.get? id = some n) : v.holds id n = false := by
  induction h with
  | nil => contradiction
  | @cons ids w id' n' hw hn' hnew ih =>
      rcases List.mem_cons.mp hid with rfl | hold
      · rw [hn] at hn'
        obtain rfl := Option.some.inj hn'
        cases hheld : v.holds id n with
        | false => rfl
        | true =>
            rw [hw.holds hheld] at hnew
            contradiction
      · exact ih hold

theorem not_mem_ids (h : Entered g v ids w) {id : NodeId} (hid : id ∈ ids) : id ∉ v.ids := by
  obtain ⟨n, hn⟩ := h.exists_get? hid
  exact Visited.not_mem_ids_of_holds_eq_false (h.holds_eq_false hid hn)

/-- The nodes of the trail are those that the set has gained. -/
theorem mem_iff (h : Entered g v ids w) {id : NodeId} :
    id ∈ ids ↔ id ∈ w.ids ∧ id ∉ v.ids := by
  constructor
  · intro hid
    have hw : id ∈ w.ids := by
      rw [h.ids_eq]
      exact List.mem_append_left _ hid
    exact ⟨hw, h.not_mem_ids hid⟩
  · rintro ⟨hw, hv⟩
    rw [h.ids_eq] at hw
    exact (List.mem_append.mp hw).resolve_right hv

/-- No node is visited twice. -/
theorem nodup (h : Entered g v ids w) : ids.Nodup := by
  induction h with
  | nil => exact List.nodup_nil
  | cons hw _ hnew ih =>
      refine List.nodup_cons.mpr ⟨?_, ih⟩
      intro hid
      exact Visited.not_mem_ids_of_holds_eq_false hnew (hw.mem_iff.mp hid).1

/-- No name is visited twice, not even through different nodes. -/
theorem nodup_names (h : Entered g v ids w) : (ids.filterMap g.nameOf?).Nodup := by
  induction h with
  | nil => exact List.nodup_nil
  | @cons ids w id n hw hn hnew ih =>
      cases hname : n.name with
      | none => simpa [Graph.nameOf?, hn, hname] using ih
      | some name =>
          have hid : g.nameOf? id = some name := by simp [Graph.nameOf?, hn, hname]
          rw [List.filterMap_cons_some hid]
          refine List.nodup_cons.mpr ⟨?_, ih⟩
          intro hmem
          have hw' : name ∈ w.names :=
            hw.mem_names_iff.mpr (.inl (by simpa using hmem))
          exact Visited.not_mem_names_of_holds_eq_false hnew hname hw'

/-- A name on a trail belongs to one node. -/
theorem eq_of_nameOf?_eq (h : Entered g v ids w) {a b : NodeId} {name : String} (ha : a ∈ ids)
    (hb : b ∈ ids) (hna : g.nameOf? a = some name) (hnb : g.nameOf? b = some name) : a = b := by
  induction h with
  | nil => contradiction
  | @cons ids w id n hw hn hnew ih =>
      have hfirst : g.nameOf? id = some name → ∀ other ∈ ids, g.nameOf? other ≠ some name := by
        intro hid other hother hsame
        obtain ⟨m, hm, hname⟩ := Graph.nameOf?_eq_some_iff.mp hid
        rw [hn] at hm
        obtain rfl := Option.some.inj hm
        exact Visited.not_mem_names_of_holds_eq_false hnew hname
          (hw.mem_names_iff.mpr (.inl ⟨other, hother, hsame⟩))
      rcases List.mem_cons.mp ha with rfl | hold
      · rcases List.mem_cons.mp hb with rfl | hold'
        · rfl
        · exact absurd hnb (hfirst hna b hold')
      · rcases List.mem_cons.mp hb with rfl | hold'
        · exact absurd hna (hfirst hnb a hold)
        · exact ih hold hold'

end Entered

/-- The child denotes a node that counts as visited. -/
def Visited.Covers (v : Visited) (g : Graph) (c : Child) : Prop :=
  ∃ id n, g.item c = .node id n ∧ v.holds id n = true

theorem Entered.covers {g : Graph} {v w : Visited} {ids : List NodeId} {c : Child}
    (h : Entered g v ids w) (hc : v.Covers g c) : w.Covers g c := by
  obtain ⟨id, n, hitem, hv⟩ := hc
  exact ⟨id, n, hitem, h.holds hv⟩

/-! ## Declarations along a trail -/

/-- The pass has come from `v` to `w`, and the nodes `declared` lie on its
trail, each at a place of its own. -/
def DeclaresAlong (g : Graph) (v : Visited) (declared : List NodeId) (w : Visited) : Prop :=
  ∃ ids, Entered g v ids w ∧ declared.Subperm ids

namespace DeclaresAlong

variable {g : Graph} {u v w : Visited} {declared more : List NodeId}

theorem trans (huv : DeclaresAlong g u declared v) (hvw : DeclaresAlong g v more w) :
    DeclaresAlong g u (declared ++ more) w := by
  obtain ⟨ids, htrail, hsub⟩ := huv
  obtain ⟨ids', htrail', hsub'⟩ := hvw
  refine ⟨ids' ++ ids, htrail.trans htrail', ?_⟩
  exact (hsub.append hsub').trans List.perm_append_comm.subperm

/-- Along a trail no name is declared twice. -/
theorem nodup_names (h : DeclaresAlong g v declared w) : (declared.filterMap g.nameOf?).Nodup := by
  obtain ⟨ids, htrail, reordered, hperm, hsub⟩ := h
  have hreordered : (reordered.filterMap g.nameOf?).Nodup :=
    htrail.nodup_names.sublist (hsub.filterMap g.nameOf?)
  exact (hperm.filterMap g.nameOf?).nodup_iff.mp hreordered

end DeclaresAlong

end SchemaDecls
