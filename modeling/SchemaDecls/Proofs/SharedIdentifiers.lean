import SchemaDecls.Proofs.Clashes
import SchemaDecls.Proofs.Success

/-!
# Names that share an identifier

Passes remember the nodes that they have visited by their standalone names as they
stand.  What is declared is the identifier of the name (`Identifier.ofName`), and
different names may have the same: separators are dropped, accents are dropped, and the
first letter is raised.  So a pass declares no name twice (`Declarations.nodup_namesIn`),
but it declares an identifier twice exactly if it meets nodes of two names that share it
(`generate_identifiers_nodup_iff`).

Nothing else rules this out.  Whenever two names share an identifier, there is a file that
declares it twice (`aliasPair_declares_twice`).
-/

namespace SchemaDecls

/-! ## Identifiers of declarations -/

/-- The text declares the identifier, as an enum, an interface or an alias, maybe under a
comment. -/
inductive Declaration.Declares (ident : String) : String → Prop
  | enum (comment : Option String) (isConst : Bool) (members : List (String × String)) :
      Declares ident (commented comment (enumText isConst ident members))
  | interface (comment : Option String) (supers : List String) (body : String) :
      Declares ident (commented comment (interfaceText ident supers body))
  | typeAlias (comment : Option String) (expression : String) :
      Declares ident (commented comment (aliasText ident expression))

/-- The declaration of a node declares the identifier of its name. -/
theorem Declaration.declares_of_ofNode {g : Graph} {o : Options} {n : Node} {text : String}
    (h : ofNode g o n = .ok text) :
    ∃ name, n.name = some name ∧ Declares (Identifier.ofName name) text := by
  unfold ofNode at h
  split at h
  · obtain ⟨name, written, hname, -, rfl⟩ := ofEnum_eq_ok h
    exact ⟨name, hname, .enum _ _ _⟩
  · obtain ⟨name, supers, body, hname, -, -, rfl⟩ := ofInterface_eq_ok h
    exact ⟨name, hname, .interface _ _ _⟩
  · obtain ⟨name, expression, hname, -, rfl⟩ := ofAlias_eq_ok h
    exact ⟨name, hname, .typeAlias _ _⟩

/-- The identifiers that a section declares. -/
def Declarations.identifiersIn (d : Declarations) (g : Graph) (which : Section) : List String :=
  (d.namesIn g which).map Identifier.ofName

/-- Texts that are declarations of nodes declare the identifiers of the names of these
nodes, one by one. -/
theorem forall₂_declares {g : Graph} {o : Options} {ds : List Declared}
    (h : ∀ x ∈ ds, g.DeclarationAt o x.id x.text) :
    List.Forall₂ (fun x ident => Declaration.Declares ident x.text) ds
      ((ds.filterMap fun x => g.nameOf? x.id).map Identifier.ofName) := by
  induction ds with
  | nil => exact .nil
  | cons x rest ih =>
      obtain ⟨n, hn, htext⟩ := h x List.mem_cons_self
      obtain ⟨name, hname, hdeclares⟩ := Declaration.declares_of_ofNode htext
      have hx : g.nameOf? x.id = some name := Graph.nameOf?_eq_some_iff.mpr ⟨n, hn, hname⟩
      rw [show (x :: rest).filterMap (fun x => g.nameOf? x.id) =
        name :: rest.filterMap (fun x => g.nameOf? x.id) from List.filterMap_cons_some hx]
      exact .cons hdeclares (ih fun y hy => h y (List.mem_cons_of_mem x hy))

section

variable {g : Graph} {o : Options} {root : Child} {rootText : String} {d : Declarations}
  {which : Section} {w : Visited}

/-- The pass of the section meets no two nodes that it declares under one identifier,
unless their names are the same. -/
def Section.TellsApart (which : Section) (g : Graph) (o : Options) (root : Child)
    (rootText : String) : Prop :=
  ∀ a b, which.MeetsName g o root rootText a → which.MeetsName g o root rootText b →
    Identifier.ofName a = Identifier.ofName b → a = b

theorem Declarations.nodup_identifiersIn_iff
    (h : Visits g o (Pass.ofSection o (some rootText) which) [root] .empty (d.get which) w) :
    (d.identifiersIn g which).Nodup ↔ which.TellsApart g o root rootText := by
  unfold identifiersIn Section.TellsApart
  rw [List.nodup_map_iff_inj_on (nodup_namesIn h)]
  simp only [mem_namesIn_iff h]
  constructor
  · intro hinj a b ha hb
    exact hinj a ha b hb
  · intro hinj a ha b hb
    exact hinj a b ha hb

end

/-- In a file that is written from nothing a section declares no identifier twice exactly
if its pass, on its way from the root, does not meet two names that share one. -/
theorem generate_identifiers_nodup_iff (g : Graph) (o : Options) (root : Child) (text : String)
    (h : (generate g o root .empty).result = .ok text) :
    ∃ rootText banner d, rootName g root = .ok rootText ∧ bannerText o = .ok banner ∧
      (runPasses g o root .empty).result = .ok d ∧ text = fileText banner d.texts ∧
      ∀ which, (d.namesIn g which).Nodup ∧
        List.Forall₂ (fun x ident => Declaration.Declares ident x.text) (d.get which)
          (d.identifiersIn g which) ∧
        ((d.identifiersIn g which).Nodup ↔ which.TellsApart g o root rootText) := by
  obtain ⟨banner, d, hbanner, hrun, -, htext⟩ := generate_eq_ok h
  obtain ⟨rootText, hroot, hvisits⟩ := runPasses_visits hrun
  simp only [Memo.get_empty] at hvisits
  refine ⟨rootText, banner, d, hroot, hbanner, hrun, htext, ?_⟩
  intro which
  exact ⟨Declarations.nodup_namesIn (hvisits which),
    forall₂_declares fun _ hx => (hvisits which).declarationAt hx,
    Declarations.nodup_identifiersIn_iff (hvisits which)⟩

theorem treeGraph_identifiers_nodup_iff :
    (generate treeGraph .unbannered (.node 0) .empty).result = .ok treeFile ∧
      ∃ rootText banner d, rootName treeGraph (.node 0) = .ok rootText ∧
        bannerText .unbannered = .ok banner ∧
        (runPasses treeGraph .unbannered (.node 0) .empty).result = .ok d ∧
        treeFile = fileText banner d.texts ∧
        ∀ which, (d.namesIn treeGraph which).Nodup ∧
          List.Forall₂ (fun x ident => Declaration.Declares ident x.text) (d.get which)
            (d.identifiersIn treeGraph which) ∧
          ((d.identifiersIn treeGraph which).Nodup ↔
            which.TellsApart treeGraph .unbannered (.node 0) rootText) := by
  have hfile : (generate treeGraph .unbannered (.node 0) .empty).result = .ok treeFile :=
    eq_ok_of_toOption (by decide +kernel)
  exact ⟨hfile, generate_identifiers_nodup_iff _ _ _ _ hfile⟩

/-! ## Identifiers that are declared twice -/

/-- A union of one member. -/
def onlyUnion (name : String) : Node := ⟨.union [.node 1], some name, none⟩

/-- A text. -/
def namedText (name : String) : Node := ⟨.string, some name, none⟩

/-- A union that has a text for its only member. -/
def aliasPair (a b : String) : Graph := ⟨#[onlyUnion a, namedText b]⟩

/-- What has been visited when a pass has come to both nodes. -/
def aliasPairVisited (a b : String) : Visited :=
  (Visited.empty.insert 0 (onlyUnion a)).insert 1 (namedText b)

/-- A pass that visits the members of unions goes on to a member of another name. -/
theorem visits_aliasPair {o : Options} {p : Pass} {a b : String} {declares declares' : Bool}
    {own own' : List Declared} (hne : a ≠ b)
    (hplan : p.plan (onlyUnion a) = some ⟨[], declares, [.node 1]⟩)
    (hplan' : p.plan (namedText b) = some ⟨[], declares', []⟩)
    (hown : OwnDeclaration (aliasPair a b) o 0 (onlyUnion a) declares own)
    (hown' : OwnDeclaration (aliasPair a b) o 1 (namedText b) declares' own') :
    Visits (aliasPair a b) o p [.node 0] .empty (own ++ own') (aliasPairVisited a b) := by
  have hunion : (aliasPair a b).item (.node 0) = .node 0 (onlyUnion a) := rfl
  have hmember : (aliasPair a b).item (.node 1) = .node 1 (namedText b) := rfl
  have hnew : (Visited.empty.insert 0 (onlyUnion a)).holds 1 (namedText b) = false := by
    simp [onlyUnion, namedText, Visited.holds, Visited.insert, Visited.empty, hne.symm]
  have hvisits := Visits.entered hunion (Visited.holds_empty 0 _) hplan .nil hown
    (.entered hmember hnew hplan' .nil hown' .nil .nil) .nil
  simpa [aliasPairVisited] using hvisits

/-- Whichever two names share an identifier, there is a file that declares it twice in one
section, whatever the options. -/
theorem aliasPair_declares_twice (o : Options) {a b : String} (hne : a ≠ b)
    (hident : Identifier.ofName a = Identifier.ofName b) :
    ∃ d, (runPasses (aliasPair a b) o (.node 0) .empty).result = .ok d ∧
      d.identifiersIn (aliasPair a b) .types = [Identifier.ofName a, Identifier.ofName a] := by
  let d : Declarations := ⟨
    [⟨0, Declaration.aliasText (Identifier.ofName a) (Identifier.ofName b)⟩] ++
      [⟨1, Declaration.aliasText (Identifier.ofName b) "string"⟩], [] ++ [], []⟩
  let m : Memo := ⟨aliasPairVisited a b, aliasPairVisited a b, Visited.empty.insert 0 (onlyUnion a)⟩
  have hroot : rootName (aliasPair a b) (.node 0) = .ok a := rfl
  have hvisits : ∀ which, Visits (aliasPair a b) o (Pass.ofSection o (some a) which) [.node 0]
      (Memo.empty.get which) (d.get which) (m.get which) := by
    intro which
    cases which with
    | types => exact visits_aliasPair hne rfl rfl (.declared rfl) (.declared rfl)
    | interfaces => exact visits_aliasPair hne rfl rfl .silent .silent
    | enums =>
        have hunion : (aliasPair a b).item (.node 0) = .node 0 (onlyUnion a) := rfl
        have hplan : Pass.enums.plan (onlyUnion a) = some ⟨[], false, []⟩ := rfl
        exact .entered hunion (Visited.holds_empty 0 _) hplan .nil .silent .nil .nil
  refine ⟨d, congrArg Run.result (runPasses_of_visits hroot hvisits), ?_⟩
  show [Identifier.ofName a, Identifier.ofName b] = [Identifier.ofName a, Identifier.ofName a]
  rw [hident]

/-- A bill with a price and a net price; their names differ in a separator. -/
def billGraph : Graph := ⟨#[
  ⟨.interface [⟨some "price", .node 1, true, false, false⟩,
    ⟨some "net", .node 2, true, false, false⟩] [], some "bill", none⟩,
  ⟨.string, some "unit_price", none⟩,
  ⟨.number, some "unit price", none⟩]⟩

/-- The pass for aliases tells them apart, and declares the identifier for both. -/
theorem billGraph_declares_unitPrice_twice :
    ∃ d, (generate billGraph .unbannered (.node 0) .empty).result =
        .ok ("export type UnitPrice = string\nexport type UnitPrice = number\n\n" ++
          "export interface Bill \x7b\nprice: UnitPrice\nnet: UnitPrice\n\x7d\n") ∧
      (runPasses billGraph .unbannered (.node 0) .empty).result = .ok d ∧
      d.namesIn billGraph .types = ["unit_price", "unit price"] ∧
      d.identifiersIn billGraph .types = ["UnitPrice", "UnitPrice"] ∧
      ¬ (d.identifiersIn billGraph .types).Nodup := by
  refine ⟨⟨[⟨1, "export type UnitPrice = string"⟩, ⟨2, "export type UnitPrice = number"⟩],
    [⟨0, "export interface Bill \x7b\nprice: UnitPrice\nnet: UnitPrice\n\x7d"⟩], []⟩,
    ?_, ?_, ?_, ?_, ?_⟩
  · exact eq_ok_of_toOption (by decide +kernel)
  · exact eq_ok_of_toOption (by decide +kernel)
  · decide +kernel
  · decide +kernel
  · decide +kernel

end SchemaDecls
