import SchemaDecls.Proofs.PassRules

/-!
# What decides which nodes a pass visits

What a pass has visited when it comes to its end depends on its edges alone,
and neither on what it declares nor on whether it declares a node before its
children or after them.  `Marks g next cs v w` is a pass of which only the
edges `next` are left.  It leads from `v` to one `w` only (`Marks.unique`), and
edges that agree on the nodes it visits lead to the same one (`Marks.congr`).

So two passes can come to differ only at the nodes where their edges do: at
tuples, unions and intersections (`Section.edges_eq_types`).
-/

namespace SchemaDecls

/-- Going along the edges `next` from the children `cs` on leads from `v` to
`w`. -/
inductive Marks (g : Graph) (next : Node → List Child) : List Child → Visited → Visited → Prop
  | nil {v : Visited} : Marks g next [] v v
  | passed {c : Child} {cs : List Child} {v w : Visited} {id : NodeId} {n : Node}
      (hitem : g.item c = .node id n) (hheld : v.holds id n = true)
      (hrest : Marks g next cs v w) : Marks g next (c :: cs) v w
  | entered {c : Child} {cs : List Child} {v v₁ w : Visited} {id : NodeId} {n : Node}
      (hitem : g.item c = .node id n) (hnew : v.holds id n = false)
      (hchildren : Marks g next (next n) (v.insert id n) v₁)
      (hrest : Marks g next cs v₁ w) : Marks g next (c :: cs) v w

namespace Marks

variable {g : Graph} {next next' : Node → List Child} {cs more : List Child} {u v w w' : Visited}

theorem append (h : Marks g next cs u v) (h' : Marks g next more v w) :
    Marks g next (cs ++ more) u w := by
  induction h with
  | nil => exact h'
  | passed hitem hheld _ ih => exact .passed hitem hheld (ih h')
  | entered hitem hnew hchildren _ _ ih => exact .entered hitem hnew hchildren (ih h')

/-- What has been visited grows along a trail. -/
theorem trail (h : Marks g next cs v w) : ∃ ids, Entered g v ids w := by
  induction h with
  | nil => exact ⟨[], .nil⟩
  | passed _ _ _ ih => exact ih
  | entered hitem hnew _ _ ihc ihr =>
      obtain ⟨ids, hchildren⟩ := ihc
      obtain ⟨ids', hrest⟩ := ihr
      have hn := Graph.get?_of_item hitem
      exact ⟨ids' ++ (ids ++ [_]), ((Entered.single hn hnew).trans hchildren).trans hrest⟩

theorem mem_ids (h : Marks g next cs v w) {id : NodeId} (hid : id ∈ v.ids) : id ∈ w.ids := by
  obtain ⟨ids, htrail⟩ := h.trail
  exact htrail.mem_ids hid

/-- What has been added is reached from one of the children. -/
theorem reaches (h : Marks g next cs v w) {target : NodeId} (hw : target ∈ w.ids)
    (hv : target ∉ v.ids) : ∃ c ∈ cs, Reaches g (fun n c' => c' ∈ next n) c target := by
  induction h with
  | nil => contradiction
  | @passed c cs v w id n _ _ _ ih =>
      obtain ⟨c', hc', hpath⟩ := ih hw hv
      exact ⟨c', List.mem_cons_of_mem c hc', hpath⟩
  | @entered c cs v v₁ w id n hitem _ _ _ ihc ihr =>
      by_cases h₁ : target ∈ v₁.ids
      · by_cases h₀ : target ∈ (v.insert id n).ids
        · obtain rfl := (Visited.mem_ids_insert.mp h₀).resolve_right hv
          exact ⟨c, List.mem_cons_self, .here hitem⟩
        · obtain ⟨c', hc', hpath⟩ := ihc h₁ h₀
          exact ⟨c, List.mem_cons_self, .step hitem hc' hpath⟩
      · obtain ⟨c', hc', hpath⟩ := ihr hw h₁
        exact ⟨c', List.mem_cons_of_mem c hc', hpath⟩

/-- The edges leave no choice. -/
theorem unique (h : Marks g next cs v w) (h' : Marks g next cs v w') : w = w' := by
  induction h generalizing w' with
  | nil =>
      cases h'
      rfl
  | @passed c cs v w id n hitem hheld _ ih =>
      cases h' with
      | passed _ _ hrest' => exact ih hrest'
      | entered hitem' hnew' _ _ =>
          obtain ⟨rfl, rfl⟩ := Graph.item_inj hitem hitem'
          rw [hheld] at hnew'
          contradiction
  | @entered c cs v v₁ w id n hitem hnew _ _ ihc ihr =>
      cases h' with
      | passed hitem' hheld' _ =>
          obtain ⟨rfl, rfl⟩ := Graph.item_inj hitem hitem'
          rw [hnew] at hheld'
          contradiction
      | entered hitem' _ hchildren' hrest' =>
          obtain ⟨rfl, rfl⟩ := Graph.item_inj hitem hitem'
          obtain rfl := ihc hchildren'
          exact ihr hrest'

/-- Only the edges of the nodes that are added matter. -/
theorem congr (h : Marks g next cs v w)
    (hnext : ∀ id n, g.get? id = some n → id ∈ w.ids → id ∉ v.ids → next n = next' n) :
    Marks g next' cs v w := by
  induction h with
  | nil => exact .nil
  | passed hitem hheld _ ih => exact .passed hitem hheld (ih hnext)
  | @entered c cs v v₁ w id n hitem hnew hchildren hrest ihc ihr =>
      have hold : ∀ other, other ∈ v.ids → other ∈ v₁.ids := by
        intro other hother
        exact hchildren.mem_ids (Visited.mem_ids_insert.mpr (.inr hother))
      have hself : next n = next' n := by
        apply hnext id n (Graph.get?_of_item hitem)
        · exact hrest.mem_ids (hchildren.mem_ids (Visited.mem_ids_insert.mpr (.inl rfl)))
        · exact Visited.not_mem_ids_of_holds_eq_false hnew
      have hchildren' : Marks g next' (next n) (v.insert id n) v₁ := by
        apply ihc
        intro other m hm hmem hother
        apply hnext other m hm (hrest.mem_ids hmem)
        intro hv
        exact hother (Visited.mem_ids_insert.mpr (.inr hv))
      have hrest' : Marks g next' cs v₁ w := by
        apply ihr
        intro other m hm hmem hother
        exact hnext other m hm hmem (fun hv => hother (hold other hv))
      rw [hself] at hchildren'
      exact .entered hitem hnew hchildren' hrest'

end Marks

/-- The children that the pass of a section visits. -/
def Section.edges (which : Section) (n : Node) : List Child :=
  (Pass.ofSection .default none which).edges n

/-- Neither the options nor the root's name have a say in the ways of a pass. -/
theorem Pass.edges_ofSection (o : Options) (rootName : Option String) (which : Section) :
    (ofSection o rootName which).edges = which.edges := by
  funext n
  obtain ⟨shape, name, comment⟩ := n
  cases which <;> cases shape <;> rfl

/-- What the pass of a section has added is what it can come to from one of the
children. -/
theorem Marks.section_reaches {g : Graph} {which : Section} {cs : List Child} {v w : Visited}
    (h : Marks g which.edges cs v w) {id : NodeId} (hw : id ∈ w.ids) (hv : id ∉ v.ids) :
    ∃ c ∈ cs, which.Reaches g c id := by
  obtain ⟨c, hc, hreaches⟩ := h.reaches hw hv
  exact ⟨c, hc, hreaches.mono fun _ _ hnext => (Pass.mem_edges_iff .default none).mp hnext⟩

theorem Visits.marks_edges {g : Graph} {o : Options} {p : Pass} {cs : List Child} {v w : Visited}
    {ds : List Declared} (h : Visits g o p cs v ds w) : Marks g p.edges cs v w := by
  induction h with
  | nil => exact .nil
  | passed hitem hheld _ ih => exact .passed hitem hheld ih
  | entered hitem hnew hplan _ _ _ _ ihb iha ihr =>
      refine .entered hitem hnew ?_ ihr
      rw [Pass.edges_of_plan hplan]
      exact ihb.append iha

theorem Visits.marks {g : Graph} {o : Options} {rootName : Option String} {which : Section}
    {cs : List Child} {v w : Visited} {ds : List Declared}
    (h : Visits g o (Pass.ofSection o rootName which) cs v ds w) : Marks g which.edges cs v w := by
  have hmarks := h.marks_edges
  rwa [Pass.edges_ofSection] at hmarks

/-- The pass of a section comes to the node from the root, where it leaves aside
nodes whose names it has met before. -/
def Section.Meets (which : Section) (g : Graph) (root : Child) (id : NodeId) : Prop :=
  ∃ w, Marks g which.edges [root] .empty w ∧ id ∈ w.ids

/-- What a pass meets is what it has visited once it comes to its end. -/
theorem Marks.mem_iff_meets {g : Graph} {which : Section} {root : Child} {w : Visited}
    (h : Marks g which.edges [root] .empty w) {id : NodeId} :
    id ∈ w.ids ↔ which.Meets g root id := by
  constructor
  · intro hid
    exact ⟨w, h, hid⟩
  · rintro ⟨w', h', hid⟩
    rwa [h.unique h']

/-- The passes go the same ways, except that interfaces are not looked for in
tuples, nor enums in unions and intersections. -/
theorem Section.edges_eq_types {which : Section} {n : Node}
    (htuple : which = .interfaces → n.kind ≠ .tuple)
    (hset : which = .enums → n.kind ≠ .union ∧ n.kind ≠ .intersection) :
    which.edges n = Section.types.edges n := by
  obtain ⟨shape, name, comment⟩ := n
  cases which <;> cases shape <;>
    simp_all [Section.edges, Pass.ofSection, Pass.types, Pass.interfaces, Pass.enums, Pass.edges,
      Plan.edges, Node.kind, Shape.kind]

/-- A pass meets the same nodes as the pass for aliases, unless the latter meets
a node where their edges differ. -/
theorem Marks.of_types {g : Graph} {root : Child} {which : Section} {w : Visited}
    (h : Marks g Section.types.edges [root] .empty w)
    (htuple : which = .interfaces → ∀ id ∈ w.ids, ∀ n, g.get? id = some n → n.kind ≠ .tuple)
    (hset : which = .enums → ∀ id ∈ w.ids, ∀ n, g.get? id = some n →
      n.kind ≠ .union ∧ n.kind ≠ .intersection) :
    Marks g which.edges [root] .empty w := by
  apply h.congr
  intro id n hn hid _
  refine (Section.edges_eq_types ?_ ?_).symm
  · intro hinterfaces
    exact htuple hinterfaces id hid n hn
  · intro henums
    exact hset henums id hid n hn

end SchemaDecls
