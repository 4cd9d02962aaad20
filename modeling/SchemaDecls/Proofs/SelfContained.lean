import Mathlib.Tactic.IntervalCases
import SchemaDecls.Proofs.Coverage
import SchemaDecls.Proofs.Expansion

/-!
# Files that declare what they mention

A declaration refers to named nodes by their identifiers and trusts that they are
declared elsewhere.  Which nodes it refers to is decided by the expansion of its
type, and which nodes are declared is decided by three passes that know nothing of
expansions.  The two meet in one fact: an expansion writes only children that the
pass for aliases visits, so that whatever a declaration mentions is within the
reach of that pass (`Section.Reaches.of_mentions`).

A file that starts from nothing is therefore self-contained
(`generate_self_contained`), as far as the passes for interfaces and for enums see
the same nodes as the pass for aliases.  They do so unless there is a tuple, or
else a union or an intersection, on the way (`Section.Reaches.of_clear`).
-/

namespace SchemaDecls

/-! ## What the passes come to -/

/-- Children that are written are children that the pass for aliases visits. -/
theorem Section.follows_of_mem_written {s : Shape} {c : Child} (h : c ∈ s.written) :
    Section.types.Follows s c := by
  cases s with
  | array element => exact List.mem_singleton.mp h
  | tuple members => exact ⟨by decide, h⟩
  | union members => exact ⟨by decide, h⟩
  | intersection members => exact ⟨by decide, h⟩
  | interface properties superTypes =>
      have hchild := Shape.written_subset h
      simpa [Shape.children, interfaceChildren, Follows] using hchild
  | _ => contradiction

/-- The pass for aliases can come to a node that an expansion meets. -/
theorem Section.reaches_of_meets {g : Graph} {c d : Child} {id : NodeId} {n : Node}
    (h : TypeExpr.Meets g c d) (hitem : g.item d = .node id n) :
    Section.types.Reaches g c id := by
  induction h with
  | here => exact .here hitem
  | inside hitem' _ hnext _ ih => exact .step hitem' (follows_of_mem_written hnext) (ih hitem)

/-- The members of enums are literals without names, as far as they are nodes. -/
def Graph.EnumsLiteral (g : Graph) : Prop :=
  ∀ id n members, g.get? id = some n → n.shape = .enum members →
    ∀ member ∈ members, ∀ child m, g.item member.value = .node child m →
      m.name = none ∧ ∃ v, m.shape = .literal v

/-- The expansion of a literal without a name meets no named node. -/
theorem TypeExpr.Meets.not_named_of_literal {g : Graph} {c d : Child}
    (hliteral : ∀ id n, g.item c = .node id n → n.name = none ∧ ∃ v, n.shape = .literal v)
    (h : TypeExpr.Meets g c d) {id : NodeId} {n : Node} (hitem : g.item d = .node id n) :
    n.hasName = false := by
  cases h with
  | here =>
      obtain ⟨hname, -⟩ := hliteral id n hitem
      simp [Node.hasName, hname]
  | inside hitem' _ hnext _ =>
      obtain ⟨-, v, hshape⟩ := hliteral _ _ hitem'
      rw [hshape] at hnext
      contradiction

/-- What the declaration of a node mentions is within the reach of the pass for
aliases if the node itself is. -/
theorem Section.Reaches.of_mentions {g : Graph} {root : Child} {id other : NodeId} {n : Node}
    (henums : g.EnumsLiteral) (h : Section.types.Reaches g root id) (hn : g.get? id = some n)
    (hmentions : Declaration.Mentions g n other) : Section.types.Reaches g root other := by
  cases hmentions with
  | @expanded c d m hc hmeets hitem hname =>
      cases hshape : n.shape with
      | enum members =>
          rw [hshape] at hc
          obtain ⟨member, hmember, rfl⟩ := List.mem_map.mp hc
          have hunnamed := hmeets.not_named_of_literal
            (henums id n members hn hshape member hmember) hitem
          rw [hname] at hunnamed
          contradiction
      | _ =>
          have hwritten : c ∈ n.shape.written := by
            rw [hshape] at hc ⊢
            exact hc
          exact SchemaDecls.Reaches.trans h hn (Section.follows_of_mem_written hwritten)
            (Section.reaches_of_meets hmeets hitem)
  | @extended properties superTypes c m hshape hc hitem hname =>
      have hfollows : Section.types.Follows n.shape c := by
        rw [hshape]
        exact .inr hc
      exact SchemaDecls.Reaches.trans h hn hfollows (.here hitem)

/-- From the root one comes to no node that the pass of the section does not look
into although the pass for aliases does. -/
def Section.Clear (which : Section) (g : Graph) (root : Child) : Prop :=
  ∀ id n, Section.types.Reaches g root id → g.get? id = some n →
    (which = .interfaces → n.kind ≠ .tuple) ∧
      (which = .enums → n.kind ≠ .union ∧ n.kind ≠ .intersection)

/-- Where nothing is in its way, a pass comes to all nodes that the pass for aliases
comes to. -/
theorem Section.Reaches.of_clear {which : Section} {g : Graph} {root : Child} {id : NodeId}
    (h : Section.types.Reaches g root id) (hclear : which.Clear g root) :
    which.Reaches g root id := by
  induction h with
  | here hitem => exact .here hitem
  | @step c next id target n hitem hnext hrest ih =>
      obtain ⟨htuple, hset⟩ := hclear id n (.here hitem) (Graph.get?_of_item hitem)
      have hfollows : which.Follows n.shape next := by
        obtain ⟨shape, name, comment⟩ := n
        cases shape <;> simp_all [Section.Follows, Node.kind, Shape.kind]
      have hlater : which.Clear g next := by
        intro other m hother hm
        exact hclear other m (.step hitem hnext hother) hm
      exact .step hitem hfollows (ih hlater)

/-! ## Where nodes are declared -/

/-- The section in which a named node has its declaration. -/
def Node.home (n : Node) : Section :=
  match n.kind with
  | .interface => .interfaces
  | .enum => .enums
  | _ => .types

theorem Section.declares_home {o : Options} {rootName : Option String} {n : Node}
    (hname : n.hasName = true) (hall : o.declareReferenced.truthy = true) :
    n.home.Declares o rootName n := by
  obtain ⟨shape, name, comment⟩ := n
  cases shape <;>
    simp_all [Node.home, Section.Declares, Node.kind, Shape.kind]

/-- What stands in front of the identifier in a declaration of the section. -/
def Section.opening (o : Options) : Section → String
  | .types => "export type "
  | .interfaces => "export interface "
  | .enums => "export " ++ (if o.constEnums.truthy then "const " else "") ++ "enum "

/-- The text is a declaration of the section under this identifier. -/
def Section.Opens (o : Options) (which : Section) (ident text : String) : Prop :=
  ∃ comment rest,
    text = Declaration.commented comment (which.opening o ++ ident ++ " " ++ rest)

/-- A node is declared under the identifier of its name. -/
theorem Section.opens_of_declares {g : Graph} {o : Options} {rootName : Option String}
    {which : Section} {n : Node} {name text : String} (hdeclares : which.Declares o rootName n)
    (hname : n.name = some name) (h : Declaration.ofNode g o n = .ok text) :
    which.Opens o (Identifier.ofName name) text := by
  cases which with
  | types =>
      rw [Declaration.ofNode_of_alias hdeclares.2.1 hdeclares.2.2] at h
      obtain ⟨own, expression, hown, -, rfl⟩ := Declaration.ofAlias_eq_ok h
      obtain rfl := Option.some.inj (hname.symm.trans hown)
      have hspace : " = " = " " ++ "= " := rfl
      refine ⟨n.comment?, "= " ++ expression, ?_⟩
      unfold Declaration.aliasText opening
      rw [hspace]
      simp only [String.append_assoc]
  | interfaces =>
      obtain ⟨properties, superTypes, hshape⟩ := Node.exists_shape_of_interface hdeclares.1
      rw [Declaration.ofNode_of_interface hshape] at h
      obtain ⟨own, supers, body, hown, -, -, rfl⟩ := Declaration.ofInterface_eq_ok h
      obtain rfl := Option.some.inj (hname.symm.trans hown)
      refine ⟨n.comment?, (if supers.isEmpty then "" else
        "extends " ++ ", ".intercalate supers ++ " ") ++ body, ?_⟩
      unfold Declaration.interfaceText opening
      simp only [String.append_assoc]
  | enums =>
      obtain ⟨members, hshape⟩ := Node.exists_shape_of_enum hdeclares
      rw [Declaration.ofNode_of_enum hshape] at h
      obtain ⟨own, written, hown, -, rfl⟩ := Declaration.ofEnum_eq_ok h
      obtain rfl := Option.some.inj (hname.symm.trans hown)
      have hspace : " \x7b\n" = " " ++ "\x7b\n" := rfl
      refine ⟨n.comment?, "\x7b\n" ++
        ",\n".intercalate (written.map fun m => m.1 ++ " = " ++ m.2) ++ "\n\x7d", ?_⟩
      unfold Declaration.enumText opening
      rw [hspace]
      simp only [String.append_assoc]

/-! ## Files -/

/-- The section of the file declares the node under this identifier. -/
def Declarations.DeclaresAs (d : Declarations) (o : Options) (which : Section) (id : NodeId)
    (ident : String) : Prop :=
  ∃ x ∈ d.get which, x.id = id ∧ which.Opens o ident x.text

/-- Whatever the declarations of the file mention is a named node whose identifier
stands in their text, and the file declares it under this identifier in its own
section, unless the pass of that section does not look into all nodes on the way. -/
def Declarations.SelfContained (d : Declarations) (g : Graph) (o : Options) (root : Child) :
    Prop :=
  ∀ which, ∀ x ∈ d.get which, ∃ n, g.get? x.id = some n ∧
    ∀ other, Declaration.Mentions g n other →
      ∃ m name, g.get? other = some m ∧ m.name = some name ∧
        Occurs (Identifier.ofName name) x.text ∧
        (m.home.Clear g root → d.DeclaresAs o m.home other (Identifier.ofName name))

/-- The file that is written from nothing is self-contained, if names tell nodes
apart, enums have literals for members, and all named interfaces are declared. -/
theorem generate_self_contained (g : Graph) (o : Options) (root : Child) (text : String)
    (hnames : g.NamesDistinct fun _ => True) (henums : g.EnumsLiteral)
    (hall : o.declareReferenced.truthy = true)
    (h : (generate g o root .empty).result = .ok text) :
    ∃ banner d, bannerText o = .ok banner ∧ (runPasses g o root .empty).result = .ok d ∧
      text = fileText banner d.texts ∧ d.SelfContained g o root := by
  obtain ⟨banner, d, hbanner, hrun, -, htext⟩ := generate_eq_ok h
  obtain ⟨rootText, -, hwalks⟩ := runPasses_eq_ok hrun
  have hcovered : ∀ which : Section, which.Covered g o rootText root
      ((runPasses g o root .empty).memo.get which) (d.get which) := by
    intro which
    have hwalk := hwalks which
    rw [Memo.get_empty] at hwalk
    apply covered_of_walk hwalk
    intro a b name _ _
    exact hnames a b name trivial trivial
  refine ⟨banner, d, hbanner, hrun, htext, ?_⟩
  intro which x hx
  obtain ⟨n, hn, hdeclared⟩ := (hcovered which).text x hx
  have hreach := ((hcovered which).declared x.id).mp (List.mem_map_of_mem hx)
  refine ⟨n, hn, ?_⟩
  intro other hmentions
  obtain ⟨m, name, hm, hname, hocc⟩ := Declaration.occurs_of_mentions hdeclared hmentions
  refine ⟨m, name, hm, hname, hocc, ?_⟩
  intro hclear
  have hother : m.home.Reaches g root other :=
    (hreach.1.types.of_mentions henums hn hmentions).of_clear hclear
  have hdeclares : m.home.Declares o (some rootText) m :=
    Section.declares_home (by simp [Node.hasName, hname]) hall
  have hmem := ((hcovered m.home).declared other).mpr ⟨hother, m, hm, hdeclares⟩
  obtain ⟨y, hy, rfl⟩ := List.mem_map.mp hmem
  obtain ⟨m', hm', hdeclared'⟩ := (hcovered m.home).text y hy
  rw [hm] at hm'
  obtain rfl := Option.some.inj hm'
  exact ⟨y, hy, rfl, Section.opens_of_declares hdeclares hname hdeclared'⟩

/-- A book extends an item and has authors, each of whom has books. -/
def book : Node :=
  ⟨.interface [⟨some "authors", .node 1, true, false, false⟩,
    ⟨some "genre", .node 3, true, false, false⟩,
    ⟨some "isbn", .node 5, false, false, false⟩] [.node 6], some "book", some "A book."⟩

/-- Books and what belongs to them. -/
def bookGraph : Graph := ⟨#[
  book,
  ⟨.array (.node 2), none, none⟩,
  ⟨.interface [⟨some "books", .node 7, true, false, false⟩] [], some "author", none⟩,
  ⟨.enum [⟨some "Novel", .node 4⟩], some "genre", none⟩,
  ⟨.literal (.str "novel"), none, none⟩,
  ⟨.string, some "isbn", none⟩,
  ⟨.interface [⟨some "number", .node 8, true, false, false⟩] [], some "item", none⟩,
  ⟨.array (.node 0), some "shelf", none⟩,
  ⟨.number, none, none⟩]⟩

/-- The file of a book. -/
def bookFile : String :=
  "export type Shelf = Book[]\nexport type Isbn = string\n\n/**\n * A book.\n */\n" ++
    "export interface Book extends Item \x7b\nauthors: Author[]\ngenre: Genre\nisbn?: Isbn\n" ++
    "\x7d\nexport interface Author \x7b\nbooks: Shelf\n\x7d\n" ++
    "export interface Item \x7b\nnumber: number\n\x7d\n\n" ++
    "export const enum Genre \x7b\nNovel = \"novel\"\n\x7d\n"

/-- The book mentions its authors through an array without a name, and the item that
it extends. -/
theorem bookGraph_self_contained :
    bookGraph.NamesDistinct (fun _ => True) ∧ bookGraph.EnumsLiteral ∧
      Options.unbannered.declareReferenced.truthy = true ∧
      (generate bookGraph .unbannered (.node 0) .empty).result = .ok bookFile ∧
      Declaration.Mentions bookGraph book 2 ∧ Declaration.Mentions bookGraph book 6 ∧
      ∃ banner d, bannerText .unbannered = .ok banner ∧
        (runPasses bookGraph .unbannered (.node 0) .empty).result = .ok d ∧
        bookFile = fileText banner d.texts ∧ d.SelfContained bookGraph .unbannered (.node 0) := by
  have hnames : bookGraph.NamesDistinct (fun _ => True) :=
    Graph.namesDistinct_of_forall_lt (by decide)
  have henums : bookGraph.EnumsLiteral := by
    intro id n members hn hshape member hmember child m hitem
    have hlt : id < 9 := Graph.lt_size_of_get? hn
    interval_cases id
    all_goals
      obtain rfl := Option.some.inj hn
      cases hshape
    obtain rfl := List.mem_singleton.mp hmember
    obtain ⟨-, rfl⟩ := Item.node.inj hitem
    exact ⟨rfl, .str "novel", rfl⟩
  have hfile : (generate bookGraph .unbannered (.node 0) .empty).result = .ok bookFile :=
    eq_ok_of_toOption (by decide +kernel)
  have hauthor : Declaration.Mentions bookGraph book 2 :=
    .expanded (List.mem_cons_self : Child.node 1 ∈ book.shape.expanded)
      (.inside rfl rfl (List.mem_singleton_self _) .here) rfl rfl
  have hitem : Declaration.Mentions bookGraph book 6 :=
    .extended rfl (List.mem_singleton_self _) rfl rfl
  exact ⟨hnames, henums, by decide, hfile, hauthor, hitem,
    generate_self_contained _ _ _ _ hnames henums (by decide) hfile⟩

end SchemaDecls
