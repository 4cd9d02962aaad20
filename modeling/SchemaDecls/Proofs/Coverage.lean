import SchemaDecls.Proofs.Marks
import SchemaDecls.Proofs.Runs

/-!
# What a fresh run visits and declares

Starting from nothing, a run that returns visits with each pass exactly the
nodes that the pass can come to, and declares of them exactly those that are
to be declared, each once (`generate_covers_reachable`).  Cycles and shared
nodes are no obstacle.  What is needed is that names tell the reachable nodes
apart: a node counts as visited as soon as another node of its name was, and
what only the second of two such nodes refers to may then stay unvisited.
-/

namespace SchemaDecls

/-- Names tell these nodes apart. -/
def Graph.NamesDistinct (g : Graph) (nodes : NodeId → Prop) : Prop :=
  ∀ a b name, nodes a → nodes b → g.nameOf? a = some name → g.nameOf? b = some name → a = b

/-- No two nodes of the graph bear one name. -/
theorem Graph.namesDistinct_of_forall_lt {g : Graph} {nodes : NodeId → Prop}
    (h : ∀ a < g.size, ∀ b < g.size, g.nameOf? a = g.nameOf? b → a = b ∨ g.nameOf? a = none) :
    g.NamesDistinct nodes := by
  intro a b name _ _ ha hb
  obtain ⟨n, hn, -⟩ := Graph.nameOf?_eq_some_iff.mp ha
  obtain ⟨m, hm, -⟩ := Graph.nameOf?_eq_some_iff.mp hb
  have hsame : g.nameOf? a = g.nameOf? b := by rw [ha, hb]
  rcases h a (lt_size_of_get? hn) b (lt_size_of_get? hm) hsame with heq | hnone
  · exact heq
  · rw [ha] at hnone
    contradiction

/-- The pass of a section has visited `v`, which is all that it can come to,
and its declarations `ds` are those of the visited nodes that have their
declaration in this section. -/
structure Section.Covered (which : Section) (g : Graph) (o : Options) (rootText : String)
    (root : Child) (v : Visited) (ds : List Declared) : Prop where
  visited : ∀ id, id ∈ v.ids ↔ which.Reaches g root id
  nodup : (ds.map Declared.id).Nodup
  declared : ∀ id, id ∈ ds.map Declared.id ↔
    which.Reaches g root id ∧ ∃ n, g.get? id = some n ∧ which.Declares o (some rootText) n
  text : ∀ d ∈ ds, ∃ n, g.get? d.id = some n ∧ Declaration.ofNode g o n = .ok d.text

section

variable {g : Graph} {o : Options} {name : Option String} {which : Section} {root : Child}
  {w : Visited} {ds : List Declared}

/-- Where names tell nodes apart, a node that counts as visited has itself been
visited. -/
theorem Entered.mem_of_covers {ids : List NodeId} {nodes : NodeId → Prop} {c : Child}
    {id : NodeId} {n : Node} (h : Entered g .empty ids w) (hnodes : ∀ other ∈ w.ids, nodes other)
    (hdistinct : g.NamesDistinct nodes) (hitem : g.item c = .node id n) (hid : nodes id)
    (hc : w.Covers g c) : id ∈ w.ids := by
  obtain ⟨id', n', hitem', hheld⟩ := hc
  obtain ⟨rfl, rfl⟩ := Graph.item_inj hitem hitem'
  rcases Visited.holds_iff.mp hheld with hmem | ⟨name, hname, hmem⟩
  · exact hmem
  · rcases h.mem_names_iff.mp hmem with ⟨other, hother, hsame⟩ | hempty
    · have hw : other ∈ w.ids := (h.mem_iff.mp hother).1
      have hown : g.nameOf? id = some name :=
        Graph.nameOf?_eq_some_iff.mpr ⟨n, Graph.get?_of_item hitem, hname⟩
      rw [hdistinct id other name hid (hnodes other hw) hown hsame]
      exact hw
    · exact absurd hempty List.not_mem_nil

/-- Whatever the pass of a section can come to from what it has visited counts as
visited. -/
def Visited.Closed (w : Visited) (which : Section) (g : Graph) : Prop :=
  ∀ id n, id ∈ w.ids → g.get? id = some n → ∀ c, which.Follows n.shape c → w.Covers g c

theorem Visited.closed_empty : Visited.empty.Closed which g :=
  fun _ _ hid => absurd hid List.not_mem_nil

/-- A pass that comes to its end leaves no way open that was not open before. -/
theorem Visits.closed_of_closed {cs : List Child} {v : Visited}
    (h : Visits g o (Pass.ofSection o name which) cs v ds w) (hv : v.Closed which g) :
    w.Closed which g := by
  intro id n hid hn c hc
  by_cases hold : id ∈ v.ids
  · exact h.covers_of_covers (hv id n hold hn c hc)
  · exact (h.covers_of_follows hn hid hold).2 c hc

/-- Where no way is open and names tell nodes apart, everything has been visited that
the pass can come to from a child that counts as visited. -/
theorem Entered.mem_of_reaches {ids : List NodeId} {nodes : NodeId → Prop} {c : Child}
    {id : NodeId} (h : Entered g .empty ids w) (hclosed : w.Closed which g)
    (hnodes : ∀ other ∈ w.ids, nodes other) (hdistinct : g.NamesDistinct nodes)
    (hreaches : which.Reaches g c id) (hc : w.Covers g c)
    (hreached : ∀ other, which.Reaches g c other → nodes other) : id ∈ w.ids := by
  induction hreaches with
  | here hitem => exact h.mem_of_covers hnodes hdistinct hitem (hreached _ (.here hitem)) hc
  | step hitem hnext _ ih =>
      have hmem := h.mem_of_covers hnodes hdistinct hitem (hreached _ (.here hitem)) hc
      have hn := Graph.get?_of_item hitem
      exact ih (hclosed _ _ hmem hn _ hnext) fun other hother =>
        hreached other (.step hitem hnext hother)

/-- From nothing, a pass that comes to its end has visited all that it can come
to from its roots, and nothing else. -/
theorem Visits.mem_iff_reaches {roots : List Child}
    (h : Visits g o (Pass.ofSection o name which) roots .empty ds w)
    (hdistinct : g.NamesDistinct fun id => ∃ root ∈ roots, which.Reaches g root id)
    {id : NodeId} : id ∈ w.ids ↔ ∃ root ∈ roots, which.Reaches g root id := by
  have hsound : ∀ other ∈ w.ids, ∃ root ∈ roots, which.Reaches g root other :=
    fun other hother => h.marks.section_reaches hother List.not_mem_nil
  obtain ⟨ids, htrail, -⟩ := h.trail
  have hclosed := h.closed_of_closed Visited.closed_empty
  constructor
  · exact hsound id
  · rintro ⟨root, hroot, hid⟩
    exact htrail.mem_of_reaches hclosed hsound hdistinct hid (h.covers hroot)
      fun other hother => ⟨root, hroot, hother⟩

/-- A walk from nothing that returns covers its section. -/
theorem covered_of_walk {rootText : String}
    (h : Walk.walk g o (Pass.ofSection o (some rootText) which) root .empty = ⟨.ok ds, w⟩)
    (hdistinct : g.NamesDistinct (which.Reaches g root)) :
    which.Covered g o rootText root w ds := by
  have hvisits := visits_of_walk h
  have hvisited : ∀ id, id ∈ w.ids ↔ which.Reaches g root id := by
    intro id
    rw [hvisits.mem_iff_reaches (by simpa using hdistinct)]
    simp
  refine ⟨hvisited, hvisits.nodup_declared, ?_, fun d hd => hvisits.declarationAt hd⟩
  intro id
  rw [hvisits.mem_declared_iff, hvisited]
  simp [Visited.empty]

end

theorem Memo.get_empty (which : Section) : Memo.empty.get which = .empty := by
  cases which <;> rfl

/-- A fresh run that returns has visited with each pass what the pass can come
to, and has declared of it once each what is to be declared.  The names of the
nodes that the root leads to must tell them apart. -/
theorem generate_covers_reachable (g : Graph) (o : Options) (root : Child) (text : String)
    (hnames : g.NamesDistinct (Section.types.Reaches g root))
    (h : (generate g o root .empty).result = .ok text) :
    ∃ rootText banner d, rootName g root = .ok rootText ∧ bannerText o = .ok banner ∧
      (runPasses g o root .empty).result = .ok d ∧ text = fileText banner d.texts ∧
      ∀ which : Section, which.Covered g o rootText root
        ((generate g o root .empty).memo.get which) (d.get which) := by
  obtain ⟨banner, d, hbanner, hrun, hmemo, htext⟩ := generate_eq_ok h
  obtain ⟨rootText, hroot, hwalks⟩ := runPasses_eq_ok hrun
  refine ⟨rootText, banner, d, hroot, hbanner, hrun, htext, ?_⟩
  intro which
  have hwalk := hwalks which
  rw [Memo.get_empty] at hwalk
  rw [hmemo]
  apply covered_of_walk hwalk
  intro a b name ha hb
  exact hnames a b name ha.types hb.types

/-- Trees of coloured trees: a tree refers to its forest, and the forest back. -/
def treeGraph : Graph := ⟨#[
  ⟨.interface [⟨some "children", .node 1, true, false, false⟩,
    ⟨some "color", .node 2, false, false, false⟩] [], some "tree", some "A tree."⟩,
  ⟨.array (.node 0), some "forest", none⟩,
  ⟨.enum [⟨some "Red", .node 3⟩], some "color", none⟩,
  ⟨.literal (.str "red"), none, none⟩]⟩

/-- The file of a tree, without a banner. -/
def treeFile : String :=
  "export type Forest = Tree[]\n\n/**\n * A tree.\n */\n" ++
    "export interface Tree \x7b\nchildren: Forest\ncolor?: Color\n\x7d\n\n" ++
    "export const enum Color \x7b\nRed = \"red\"\n\x7d\n"

theorem treeGraph_covered :
    treeGraph.NamesDistinct (Section.types.Reaches treeGraph (.node 0)) ∧
      (generate treeGraph .unbannered (.node 0) .empty).result = .ok treeFile ∧
      ∃ rootText banner d, rootName treeGraph (.node 0) = .ok rootText ∧
        bannerText .unbannered = .ok banner ∧
        (runPasses treeGraph .unbannered (.node 0) .empty).result = .ok d ∧
        treeFile = fileText banner d.texts ∧
        ∀ which : Section, which.Covered treeGraph .unbannered rootText (.node 0)
          ((generate treeGraph .unbannered (.node 0) .empty).memo.get which) (d.get which) := by
  have hnames : treeGraph.NamesDistinct (Section.types.Reaches treeGraph (.node 0)) :=
    Graph.namesDistinct_of_forall_lt (by decide)
  have hfile : (generate treeGraph .unbannered (.node 0) .empty).result = .ok treeFile :=
    eq_ok_of_toOption (by decide +kernel)
  exact ⟨hnames, hfile, generate_covers_reachable _ _ _ _ hnames hfile⟩

end SchemaDecls
