import Mathlib.Data.List.Pairwise
import SchemaDecls.Proofs.Coverage

/-!
# Names that two passes declare

Each pass remembers names for itself, so none of them declares a name twice.
Two passes may still declare one name, for different nodes: where their ways
differ, they may come to different nodes of that name first.  A fresh run
declares no name twice exactly if the graph is unambiguous from its root on,
that is, if no two passes meet, each on its own way, a node of one name that they
declare (`generate_names_nodup_iff`).

There are two safe cases.  If names tell the reachable nodes apart, two passes
meet the same node, which has its declaration in one section only
(`Graph.unambiguous_of_namesDistinct`).  And without tuples, unions and
intersections all passes go the same way and come to the same nodes first
(`Graph.unambiguous_of_plain`).
-/

namespace SchemaDecls

/-- The sections in the order in which they are written. -/
def Section.all : List Section := [.types, .interfaces, .enums]

theorem Section.mem_all (which : Section) : which ∈ all := by
  cases which <;> decide

theorem Section.nodup_all : all.Nodup := by decide

/-- A node has its declaration in one section at most. -/
theorem Section.eq_of_declares {o : Options} {rootName : Option String} {which other : Section}
    {n : Node} (h : which.Declares o rootName n) (h' : other.Declares o rootName n) :
    which = other := by
  cases which <;> cases other <;> simp_all [Section.Declares]

/-- The names that a section declares. -/
def Declarations.namesIn (d : Declarations) (g : Graph) (which : Section) : List String :=
  (d.get which).filterMap fun x => g.nameOf? x.id

/-- The names that are declared in all sections together. -/
def Declarations.names (d : Declarations) (g : Graph) : List String :=
  Section.all.flatMap (d.namesIn g)

/-- A pass meets only what it can come to. -/
theorem Section.Meets.reaches {which : Section} {g : Graph} {root : Child} {id : NodeId}
    (h : which.Meets g root id) : which.Reaches g root id := by
  obtain ⟨w, hmarks, hid⟩ := h
  obtain ⟨c, hc, hreaches⟩ := hmarks.section_reaches hid List.not_mem_nil
  obtain rfl := List.mem_singleton.mp hc
  exact hreaches

/-- The pass of the section meets a node of this name that has its declaration
there. -/
def Section.MeetsName (which : Section) (g : Graph) (o : Options) (root : Child)
    (rootText name : String) : Prop :=
  ∃ id n, which.Meets g root id ∧ g.get? id = some n ∧ n.name = some name ∧
    which.Declares o (some rootText) n

/-- No two passes meet nodes of one name that have declarations in their
sections. -/
def Graph.Unambiguous (g : Graph) (o : Options) (root : Child) (rootText : String) : Prop :=
  ∀ (which other : Section) name, which.MeetsName g o root rootText name →
    other.MeetsName g o root rootText name → which = other

section

variable {g : Graph} {o : Options} {root : Child} {rootText : String} {d : Declarations}
  {v w : Visited}

theorem Declarations.nodup_namesIn {which : Section}
    (h : Visits g o (Pass.ofSection o (some rootText) which) [root] v (d.get which) w) :
    (d.namesIn g which).Nodup := by
  have hnodup := h.declaresAlong.nodup_names
  rwa [List.filterMap_map] at hnodup

/-- A section of a fresh run declares the names that its pass meets. -/
theorem Declarations.mem_namesIn_iff {which : Section} {name : String}
    (h : Visits g o (Pass.ofSection o (some rootText) which) [root] .empty (d.get which) w) :
    name ∈ d.namesIn g which ↔ which.MeetsName g o root rootText name := by
  unfold namesIn Section.MeetsName
  rw [List.mem_filterMap]
  constructor
  · rintro ⟨x, hx, hname⟩
    obtain ⟨hw, -, n, hn, hdeclares⟩ := h.mem_declared_iff.mp (List.mem_map_of_mem hx)
    obtain ⟨n', hn', hname'⟩ := Graph.nameOf?_eq_some_iff.mp hname
    rw [hn] at hn'
    obtain rfl := Option.some.inj hn'
    exact ⟨x.id, n, h.marks.mem_iff_meets.mp hw, hn, hname', hdeclares⟩
  · rintro ⟨id, n, hmeets, hn, hname, hdeclares⟩
    have hw : id ∈ w.ids := h.marks.mem_iff_meets.mpr hmeets
    have hdeclared := h.mem_declared_iff.mpr ⟨hw, List.not_mem_nil, n, hn, hdeclares⟩
    obtain ⟨x, hx, rfl⟩ := List.mem_map.mp hdeclared
    exact ⟨x, hx, Graph.nameOf?_eq_some_iff.mpr ⟨n, hn, hname⟩⟩

/-- A fresh run that returns declares no name twice exactly if the graph is
unambiguous. -/
theorem runPasses_names_nodup_iff (h : (runPasses g o root .empty).result = .ok d) :
    ∃ rootText, rootName g root = .ok rootText ∧
      ((d.names g).Nodup ↔ g.Unambiguous o root rootText) := by
  obtain ⟨rootText, hroot, hvisits⟩ := runPasses_visits h
  simp only [Memo.get_empty] at hvisits
  have hmem : ∀ which name, name ∈ d.namesIn g which ↔ which.MeetsName g o root rootText name :=
    fun which name => Declarations.mem_namesIn_iff (hvisits which)
  refine ⟨rootText, hroot, ?_⟩
  unfold Declarations.names
  rw [List.nodup_flatMap]
  constructor
  · rintro ⟨-, hpairs⟩ which other name hwhich hother
    by_contra hne
    have hsymm : Std.Symm (Function.onFun List.Disjoint (d.namesIn g)) :=
      ⟨fun _ _ hdisjoint _ hright hleft => hdisjoint hleft hright⟩
    have hdisjoint := hpairs.forall (Section.mem_all which) (Section.mem_all other) hne
    exact hdisjoint ((hmem which name).mpr hwhich) ((hmem other name).mpr hother)
  · intro hclear
    refine ⟨fun which _ => Declarations.nodup_namesIn (hvisits which), ?_⟩
    apply Section.nodup_all.pairwise_of_forall_ne
    intro which _ other _ hne name hwhich hother
    exact hne (hclear which other name ((hmem which name).mp hwhich) ((hmem other name).mp hother))

/-- Where no two passes meet different nodes of one name, nothing is ambiguous:
a single node has its declaration in one section only. -/
theorem Graph.unambiguous_of_forall_eq
    (h : ∀ (which other : Section) a b name, which.Meets g root a → other.Meets g root b →
      g.nameOf? a = some name → g.nameOf? b = some name → a = b) :
    g.Unambiguous o root rootText := by
  rintro which other name ⟨a, n, ha, hn, hna, hdeclares⟩ ⟨b, k, hb, hk, hkb, hdeclares'⟩
  obtain rfl : a = b := h which other a b name ha hb
    (nameOf?_eq_some_iff.mpr ⟨n, hn, hna⟩) (nameOf?_eq_some_iff.mpr ⟨k, hk, hkb⟩)
  rw [hn] at hk
  obtain rfl := Option.some.inj hk
  exact Section.eq_of_declares hdeclares hdeclares'

/-- A graph is unambiguous where names tell the reachable nodes apart. -/
theorem Graph.unambiguous_of_namesDistinct
    (hnames : g.NamesDistinct (Section.types.Reaches g root)) : g.Unambiguous o root rootText := by
  apply unambiguous_of_forall_eq
  intro which other a b name ha hb
  exact hnames a b name ha.reaches.types hb.reaches.types

/-- A graph is unambiguous if the pass for aliases comes to its end and meets no
tuples, unions and intersections, however many nodes share a name. -/
theorem Graph.unambiguous_of_plain (h : Marks g Section.types.edges [root] .empty w)
    (hplain : ∀ id ∈ w.ids, ∀ n, g.get? id = some n →
      n.kind ≠ .tuple ∧ n.kind ≠ .union ∧ n.kind ≠ .intersection) :
    g.Unambiguous o root rootText := by
  have hsame : ∀ which : Section, Marks g which.edges [root] .empty w := by
    intro which
    apply h.of_types
    · intro _ id hid n hn
      exact (hplain id hid n hn).1
    · intro _ id hid n hn
      exact (hplain id hid n hn).2
  obtain ⟨ids, htrail⟩ := h.trail
  have hids : ∀ (which : Section) id, which.Meets g root id → id ∈ ids := by
    intro which id hid
    exact htrail.mem_iff.mpr ⟨(hsame which).mem_iff_meets.mpr hid, List.not_mem_nil⟩
  apply unambiguous_of_forall_eq
  intro which other a b name ha hb
  exact htrail.eq_of_nameOf?_eq (hids which a ha) (hids other b hb)

end

/-- A file that is written from nothing declares no name twice exactly if no two
passes meet, each on its own way from the root, nodes of one name that they
declare. -/
theorem generate_names_nodup_iff (g : Graph) (o : Options) (root : Child) (text : String)
    (h : (generate g o root .empty).result = .ok text) :
    ∃ rootText banner d, rootName g root = .ok rootText ∧ bannerText o = .ok banner ∧
      (runPasses g o root .empty).result = .ok d ∧ text = fileText banner d.texts ∧
      (∀ which, ∀ x ∈ d.get which,
        g.DeclarationAt o x.id x.text ∧ ∃ name, g.nameOf? x.id = some name) ∧
      ((d.names g).Nodup ↔ g.Unambiguous o root rootText) := by
  obtain ⟨banner, d, hbanner, hrun, -, htext⟩ := generate_eq_ok h
  obtain ⟨rootText, hroot, hiff⟩ := runPasses_names_nodup_iff hrun
  exact ⟨rootText, banner, d, hroot, hbanner, hrun, htext,
    fun which x hx => runPasses_declared hrun hx, hiff⟩

theorem treeGraph_names_nodup_iff :
    (generate treeGraph .unbannered (.node 0) .empty).result = .ok treeFile ∧
      ∃ rootText banner d, rootName treeGraph (.node 0) = .ok rootText ∧
        bannerText .unbannered = .ok banner ∧
        (runPasses treeGraph .unbannered (.node 0) .empty).result = .ok d ∧
        treeFile = fileText banner d.texts ∧
        (∀ which, ∀ x ∈ d.get which, treeGraph.DeclarationAt .unbannered x.id x.text ∧
          ∃ name, treeGraph.nameOf? x.id = some name) ∧
        ((d.names treeGraph).Nodup ↔
          treeGraph.Unambiguous .unbannered (.node 0) rootText) := by
  have hfile : (generate treeGraph .unbannered (.node 0) .empty).result = .ok treeFile :=
    eq_ok_of_toOption (by decide +kernel)
  exact ⟨hfile, generate_names_nodup_iff _ _ _ _ hfile⟩

/-- An order with a pair of texts that are called items, and with an interface
called item. -/
def orderGraph : Graph := ⟨#[
  ⟨.interface [⟨some "labels", .node 1, true, false, false⟩,
    ⟨some "item", .node 3, true, false, false⟩] [], some "order", none⟩,
  ⟨.tuple [.node 2, .node 2], none, none⟩,
  ⟨.string, some "item", none⟩,
  ⟨.interface [] [], some "item", none⟩]⟩

/-- The pass for interfaces does not look into the tuple, so the two items meet
in one file. -/
theorem orderGraph_declares_item_twice :
    ∃ d, (generate orderGraph .unbannered (.node 0) .empty).result =
        .ok ("export type Item = string\n\n" ++
          "export interface Order \x7b\nlabels: [Item, Item]\nitem: Item\n\x7d\n" ++
          "export interface Item \x7b\n\n\x7d\n") ∧
      (runPasses orderGraph .unbannered (.node 0) .empty).result = .ok d ∧
      d.names orderGraph = ["item", "order", "item"] ∧ ¬ (d.names orderGraph).Nodup := by
  refine ⟨⟨[⟨2, "export type Item = string"⟩],
    [⟨0, "export interface Order \x7b\nlabels: [Item, Item]\nitem: Item\n\x7d"⟩,
      ⟨3, "export interface Item \x7b\n\n\x7d"⟩], []⟩, ?_, ?_, ?_, ?_⟩
  · exact eq_ok_of_toOption (by decide +kernel)
  · exact eq_ok_of_toOption (by decide +kernel)
  · decide +kernel
  · decide +kernel

end SchemaDecls
