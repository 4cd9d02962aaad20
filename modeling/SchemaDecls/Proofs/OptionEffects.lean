import Mathlib.Data.List.Forall2
import SchemaDecls.Proofs.Expansion
import SchemaDecls.Proofs.Success

/-!
# What the options change

The options have no say in where a pass goes and in what it remembers.  They change
what is written on the way: the pass for interfaces may declare fewer of the nodes that
it visits, and enums may be declared with or without the word `const`.

A node that is not declared cannot fail to be.  So if a pass that declares no more than
another goes the same way, it comes to its end wherever the other does, and what it
writes is what the other writes, less the declarations that it leaves out
(`Visits.redeclare`).  What two runs from the same root have in common under different
options is then read off section by section (`generate_compares`).

If only the root is to be declared of all named interfaces, one might expect every
interface that bears the root's name.  Starting from nothing it is the root alone,
since the pass meets the root first and passes over whatever else has its name
(`Visits.interfaces_of_root`).
-/

namespace SchemaDecls

/-! ## Declarations under other options -/

namespace Declaration

/-- The texts are declarations of one enum, and differ at most in the word `const`. -/
def SameUpToConst (isConst isConst' : Bool) (text text' : String) : Prop :=
  ∃ comment name members, text = commented comment (enumText isConst name members) ∧
    text' = commented comment (enumText isConst' name members)

variable {g : Graph} {o : Options} {n : Node} {text : String}

/-- The declaration of a node that is no enum does not depend on the options. -/
theorem ofNode_eq_of_ne_enum (o o' : Options) (h : n.kind ≠ .enum) :
    ofNode g o n = ofNode g o' n := by
  obtain ⟨shape, name, comment⟩ := n
  cases shape with
  | enum members => exact absurd rfl h
  | _ => rfl

theorem ofEnum_under_options {members : List EnumMember} (h : ofEnum g o n members = .ok text)
    (o' : Options) :
    ∃ text', ofEnum g o' n members = .ok text' ∧
      SameUpToConst o.constEnums.truthy o'.constEnums.truthy text text' := by
  obtain ⟨name, written, hname, hwritten, rfl⟩ := ofEnum_eq_ok h
  refine ⟨_, ?_, n.comment?, Identifier.ofName name, written, rfl, rfl⟩
  simp only [ofEnum, hwritten, identifier, hname]
  rfl

/-- What can be declared can be declared under any options. -/
theorem ofNode_under_options (h : ofNode g o n = .ok text) (o' : Options) :
    ∃ text', ofNode g o' n = .ok text' ∧ (n.kind ≠ .enum → text' = text) ∧
      (n.kind = .enum → SameUpToConst o.constEnums.truthy o'.constEnums.truthy text text') := by
  by_cases henum : n.kind = .enum
  · obtain ⟨members, hshape⟩ := Node.exists_shape_of_enum henum
    rw [ofNode_of_enum hshape] at h ⊢
    obtain ⟨text', htext', hsame⟩ := ofEnum_under_options h o'
    exact ⟨text', htext', fun hne => absurd henum hne, fun _ => hsame⟩
  · rw [ofNode_eq_of_ne_enum o o' henum] at h
    exact ⟨text, h, fun _ => rfl, fun heq => absurd heq henum⟩

end Declaration

/-! ## Passes that declare less -/

/-- The pass goes where the other goes and declares nothing that the other does not. -/
def Pass.DeclaresWithin (p' p : Pass) : Prop :=
  ∀ n plan, p.plan n = some plan →
    ∃ declares, p'.plan n = some { plan with declares } ∧ (declares = true → plan.declares = true)

/-- Fewer interfaces are declared where not all of them are to be. -/
theorem Pass.ofSection_declaresWithin {o o' : Options} {which : Section}
    (h : which = .interfaces → o'.declareReferenced.truthy = true →
      o.declareReferenced.truthy = true) (rootName : Option String) :
    (ofSection o' rootName which).DeclaresWithin (ofSection o rootName which) := by
  rintro ⟨shape, name, comment⟩ plan hplan
  cases which with
  | types => exact ⟨plan.declares, hplan, id⟩
  | enums => exact ⟨plan.declares, hplan, id⟩
  | interfaces =>
      have hless := h rfl
      cases shape <;> simp only [ofSection, interfaces, reduceCtorEq, Option.some.injEq] at hplan ⊢
      all_goals subst hplan
      case interface =>
        refine ⟨_, rfl, ?_⟩
        simp only [declaresInterface, Bool.and_eq_true, Bool.or_eq_true]
        exact fun hdeclares => ⟨hdeclares.1, hdeclares.2.imp id hless⟩
      all_goals exact ⟨_, rfl, id⟩

/-- Two declarations of a node that the pass declares, each under its own options. -/
def Declared.Recast (g : Graph) (o o' : Options) (p : Pass) (x x' : Declared) : Prop :=
  x'.id = x.id ∧ ∃ n, g.get? x.id = some n ∧ p.declares n = true ∧
    Declaration.ofNode g o n = .ok x.text ∧ Declaration.ofNode g o' n = .ok x'.text

section

variable {g : Graph} {o : Options} {p p' : Pass} {cs : List Child} {v w : Visited}
  {ds : List Declared}

theorem OwnDeclaration.redeclare {id : NodeId} {n : Node} {plan : Plan} {declares : Bool}
    {own : List Declared} (h : OwnDeclaration g o id n plan.declares own)
    (hn : g.get? id = some n) (hplan : p'.plan n = some { plan with declares })
    (hless : declares = true → plan.declares = true) (o' : Options) :
    ∃ own', OwnDeclaration g o' id n declares own' ∧
      List.Forall₂ (Declared.Recast g o o' p') (own.filter fun x => p'.declaresAt g x.id) own' := by
  have hdeclares : p'.declares n = declares := by simp [Pass.declares, hplan]
  have hat : p'.declaresAt g id = declares := by simp [Pass.declaresAt, hn, hdeclares]
  cases declares with
  | false =>
      refine ⟨[], .silent, ?_⟩
      have hnone : own.filter (fun x => p'.declaresAt g x.id) = [] := by
        apply List.filter_eq_nil_iff.mpr
        intro x hx
        rw [(h.text_eq hx).1, hat]
        decide
      rw [hnone]
      exact .nil
  | true =>
      rw [hless rfl] at h
      cases h with
      | @declared text htext =>
          obtain ⟨text', htext', -⟩ := Declaration.ofNode_under_options htext o'
          refine ⟨[⟨id, text'⟩], .declared htext', ?_⟩
          rw [List.filter_singleton, hat]
          exact .cons ⟨rfl, n, hn, hdeclares, htext, htext'⟩ .nil

/-- A pass that goes the same way and declares less comes to its end, too, and writes
the declarations that it does not leave out. -/
theorem Visits.redeclare (hless : p'.DeclaresWithin p) (h : Visits g o p cs v ds w)
    (o' : Options) :
    ∃ ds', Visits g o' p' cs v ds' w ∧
      List.Forall₂ (Declared.Recast g o o' p') (ds.filter fun x => p'.declaresAt g x.id) ds' := by
  induction h with
  | nil => exact ⟨[], .nil, .nil⟩
  | passed hitem hheld _ ih =>
      obtain ⟨ds', hvisits, hsame⟩ := ih
      exact ⟨ds', .passed hitem hheld hvisits, hsame⟩
  | entered hitem hnew hplan _ hown _ _ ihb iha ihr =>
      obtain ⟨declares, hplan', hle⟩ := hless _ _ hplan
      have hn := Graph.get?_of_item hitem
      obtain ⟨before, hbefore, hb⟩ := ihb
      obtain ⟨own', hown', hself⟩ := hown.redeclare hn hplan' hle o'
      obtain ⟨after, hafter, ha⟩ := iha
      obtain ⟨rest, hrest, hr⟩ := ihr
      refine ⟨_, .entered hitem hnew hplan' hbefore hown' hafter hrest, ?_⟩
      simp only [List.filter_append]
      exact List.rel_append (List.rel_append (List.rel_append hb hself) ha) hr

/-- A pass declares what it has written. -/
theorem Visits.filter_declaresAt (h : Visits g o p cs v ds w) :
    (ds.filter fun x => p.declaresAt g x.id) = ds := by
  obtain ⟨ids, -, hperm⟩ := h.trail
  apply List.filter_eq_self.mpr
  intro x hx
  exact (List.mem_filter.mp (hperm.mem_iff.mp (List.mem_map_of_mem hx))).2

end

/-! ## The sections of a file -/

section

variable {g : Graph} {o o' : Options} {rootText : String} {which : Section} {cs : List Child}
  {v w : Visited} {ds : List Declared} {x x' : Declared}

/-- Outside the section of enums the options do not show in a declaration. -/
theorem Declared.Recast.eq {name : Option String}
    (h : Recast g o o' (Pass.ofSection o' name which) x x') (hwhich : which ≠ .enums) :
    x' = x := by
  obtain ⟨hid, n, -, hdeclares, htext, htext'⟩ := h
  have hkind : n.kind ≠ .enum := by
    intro henum
    have hrule := (Pass.rule_of_declares hdeclares).2
    cases which with
    | types => exact hrule.2.2 henum
    | interfaces =>
        have hinterface : n.kind = .interface := hrule.1
        rw [henum] at hinterface
        contradiction
    | enums => exact hwhich rfl
  rw [Declaration.ofNode_eq_of_ne_enum o o' hkind, htext'] at htext
  obtain ⟨i, t⟩ := x
  obtain ⟨i', t'⟩ := x'
  obtain rfl : i' = i := hid
  obtain rfl : t' = t := Except.ok.inj htext
  rfl

theorem Declared.eq_of_forall₂_recast {name : Option String} {xs xs' : List Declared}
    (h : List.Forall₂ (Recast g o o' (Pass.ofSection o' name which)) xs xs')
    (hwhich : which ≠ .enums) : xs' = xs := by
  induction h with
  | nil => rfl
  | cons hx _ ih => rw [hx.eq hwhich, ih]

/-- In the section of enums they show in the word `const`. -/
theorem Declared.Recast.sameUpToConst {name : Option String}
    (h : Recast g o o' (Pass.ofSection o' name .enums) x x') :
    x'.id = x.id ∧ Declaration.SameUpToConst o.constEnums.truthy o'.constEnums.truthy x.text
      x'.text := by
  obtain ⟨hid, n, -, hdeclares, htext, htext'⟩ := h
  have henum : n.kind = .enum := (Pass.rule_of_declares hdeclares).2
  obtain ⟨text', hwritten, -, hsame⟩ := Declaration.ofNode_under_options htext o'
  obtain rfl : text' = x'.text := Except.ok.inj (hwritten.symm.trans htext')
  exact ⟨hid, hsame henum⟩

/-- Of the interfaces that were declared, another pass declares those that bear the name
of the root, unless it declares them all. -/
theorem Visits.declaresAt_interfaces
    (h : Visits g o (Pass.ofSection o (some rootText) .interfaces) cs v ds w) (hx : x ∈ ds) :
    (Pass.ofSection o' (some rootText) .interfaces).declaresAt g x.id =
      (o'.declareReferenced.truthy || g.nameOf? x.id == some rootText) := by
  obtain ⟨-, -, n, hn, ⟨hkind, hnamed, -⟩, -⟩ := h.mem_iff.mp hx
  obtain ⟨properties, superTypes, hshape⟩ := Node.exists_shape_of_interface hkind
  have hname : g.nameOf? x.id = n.name := by simp [Graph.nameOf?, hn]
  have hdeclares : (Pass.ofSection o' (some rootText) .interfaces).declares n =
      Pass.declaresInterface o' (some rootText) n := by
    simp [Pass.declares, Pass.ofSection, Pass.interfaces, hshape]
  simp [Pass.declaresAt, hn, hdeclares, Pass.declaresInterface, hnamed, hname, Bool.or_comm]

/-- From nothing, and if not all interfaces are to be declared, the root is declared if it
is an interface, and no other. -/
theorem Visits.interfaces_of_root {root : Child} {id : NodeId} {n : Node}
    (h : Visits g o (Pass.ofSection o (some rootText) .interfaces) [root] .empty ds w)
    (hitem : g.item root = .node id n) (hname : n.name = some rootText)
    (hroot : o.declareReferenced.truthy = false) :
    (n.kind = .interface → ∃ own, Declaration.ofNode g o n = .ok own ∧ ds = [⟨id, own⟩]) ∧
      (n.kind ≠ .interface → ds = []) := by
  obtain ⟨hw, hnew⟩ := h.adds_of_not_holds hitem (Visited.holds_empty id n)
  obtain ⟨ids, htrail, -⟩ := h.trail
  have hn := Graph.get?_of_item hitem
  have hown : g.nameOf? id = some rootText := Graph.nameOf?_eq_some_iff.mpr ⟨n, hn, hname⟩
  -- On a trail from nothing no other node has the name of the root.
  have honly : ∀ other ∈ ds.map Declared.id, other = id ∧ n.kind = .interface := by
    intro other hother
    obtain ⟨hwo, hvo, m, hm, hkind, -, hbears⟩ := h.mem_declared_iff.mp hother
    have hbears : m.name = some rootText := hbears.resolve_right (by simp [hroot])
    obtain rfl : other = id := htrail.eq_of_nameOf?_eq (htrail.mem_iff.mpr ⟨hwo, hvo⟩)
      (htrail.mem_iff.mpr ⟨hw, hnew⟩) (Graph.nameOf?_eq_some_iff.mpr ⟨m, hm, hbears⟩) hown
    rw [hn] at hm
    obtain rfl := Option.some.inj hm
    exact ⟨rfl, hkind⟩
  constructor
  · intro hkind
    have hself : id ∈ ds.map Declared.id :=
      h.mem_declared_iff.mpr ⟨hw, hnew, n, hn, hkind, by simp [Node.hasName, hname], .inl hname⟩
    have hperm : (ds.map Declared.id).Perm [id] := by
      apply (List.perm_ext_iff_of_nodup h.nodup_declared (List.nodup_singleton id)).mpr
      intro other
      rw [List.mem_singleton]
      exact ⟨fun hother => (honly other hother).1, fun heq => heq ▸ hself⟩
    obtain ⟨x, rfl, rfl⟩ := List.map_eq_singleton_iff.mp (List.perm_singleton.mp hperm)
    obtain ⟨m, hm, htext⟩ := h.declarationAt (List.mem_singleton_self x)
    rw [hn] at hm
    obtain rfl := Option.some.inj hm
    exact ⟨x.text, htext, rfl⟩
  · intro hkind
    apply List.eq_nil_iff_forall_not_mem.mpr
    intro x hx
    exact hkind (honly x.id (List.mem_map_of_mem hx)).2

end

/-! ## Files under other options -/

/-- The declarations of one root under two options.  The aliases are the same, the enums
differ at most in the word `const`, and where the second options declare no more than
the first, the interfaces are those that bear the name of the root, unless all are to be
declared. -/
structure Declarations.Compare (g : Graph) (o o' : Options) (rootText : String)
    (d d' : Declarations) : Prop where
  types : d'.types = d.types
  enums : List.Forall₂ (fun x x' => x'.id = x.id ∧
    Declaration.SameUpToConst o.constEnums.truthy o'.constEnums.truthy x.text x'.text)
    d.enums d'.enums
  interfaces : (o'.declareReferenced.truthy = true → o.declareReferenced.truthy = true) →
    d'.interfaces = d.interfaces.filter fun x =>
      o'.declareReferenced.truthy || g.nameOf? x.id == some rootText

theorem Memo.eq_of_forall_get {m m' : Memo} (h : ∀ which, m.get which = m'.get which) :
    m = m' := by
  obtain ⟨types, interfaces, enums⟩ := m
  obtain ⟨types', interfaces', enums'⟩ := m'
  obtain rfl : types = types' := h .types
  obtain rfl : interfaces = interfaces' := h .interfaces
  obtain rfl : enums = enums' := h .enums
  rfl

section

variable {g : Graph} {o o' : Options} {root : Child} {m : Memo} {d d' : Declarations}

/-- Two runs of one root that return leave the same behind and compare. -/
theorem runPasses_compare (h : (runPasses g o root m).result = .ok d)
    (h' : (runPasses g o' root m).result = .ok d') :
    (runPasses g o root m).memo = (runPasses g o' root m).memo ∧
      ∃ rootText, rootName g root = .ok rootText ∧ d.Compare g o o' rootText d' := by
  obtain ⟨rootText, hroot, hvisits⟩ := runPasses_visits h
  obtain ⟨rootText', hroot', hvisits'⟩ := runPasses_visits h'
  obtain rfl : rootText = rootText' := Except.ok.inj (hroot.symm.trans hroot')
  have hrecast : ∀ which : Section, (which = .interfaces → o'.declareReferenced.truthy = true →
      o.declareReferenced.truthy = true) →
      List.Forall₂ (Declared.Recast g o o' (Pass.ofSection o' (some rootText) which))
        ((d.get which).filter fun x =>
          (Pass.ofSection o' (some rootText) which).declaresAt g x.id)
        (d'.get which) := by
    intro which hless
    obtain ⟨ds, hds, hrecast⟩ :=
      (hvisits which).redeclare (Pass.ofSection_declaresWithin hless (some rootText)) o'
    rwa [(hds.unique (hvisits' which)).1] at hrecast
  refine ⟨?_, rootText, hroot, ?_, ?_, ?_⟩
  · apply Memo.eq_of_forall_get
    intro which
    exact (hvisits which).marks.unique (hvisits' which).marks
  · have htypes := hrecast .types (fun hne => absurd hne (by decide))
    have hsame : d.types.filter (fun x => (Pass.ofSection o' (some rootText) .types).declaresAt g
        x.id) = d.types := (hvisits .types).filter_declaresAt
    rw [Declarations.get, hsame] at htypes
    exact Declared.eq_of_forall₂_recast htypes (by decide)
  · have henums := hrecast .enums (fun hne => absurd hne (by decide))
    have hsame : d.enums.filter (fun x => (Pass.ofSection o' (some rootText) .enums).declaresAt g
        x.id) = d.enums := (hvisits .enums).filter_declaresAt
    rw [Declarations.get, hsame] at henums
    exact henums.imp fun x x' hx => hx.sameUpToConst
  · intro hless
    have hinterfaces := hrecast .interfaces fun _ => hless
    rw [List.filter_congr fun x hx => (hvisits .interfaces).declaresAt_interfaces hx] at hinterfaces
    exact Declared.eq_of_forall₂_recast hinterfaces (by decide)

/-- A run that returns does so, too, where no more is to be declared. -/
theorem runPasses_returns (hless : o'.declareReferenced.truthy = true →
      o.declareReferenced.truthy = true) (h : (runPasses g o root m).result = .ok d) :
    ∃ d', (runPasses g o' root m).result = .ok d' := by
  obtain ⟨rootText, hroot, hvisits⟩ := runPasses_visits h
  apply exists_run_of_visits hroot
  intro which
  obtain ⟨ds, hds, -⟩ :=
    (hvisits which).redeclare (Pass.ofSection_declaresWithin (fun _ => hless) (some rootText)) o'
  exact ⟨ds, _, hds⟩

theorem generate_returns_of_returns {banner' : String} (hbanner' : bannerText o' = .ok banner')
    (hless : o'.declareReferenced.truthy = true → o.declareReferenced.truthy = true)
    (h : ∃ text, (generate g o root m).result = .ok text) :
    ∃ text, (generate g o' root m).result = .ok text := by
  obtain ⟨text, htext⟩ := h
  obtain ⟨banner, d, -, hrun, -, -⟩ := generate_eq_ok htext
  obtain ⟨d', hrun'⟩ := runPasses_returns hless hrun
  exact ⟨_, generate_of_run hrun' hbanner'⟩

end

/-- What the files of one root, written after the same past but under two options, have
in common. -/
structure Graph.ComparesFiles (g : Graph) (root : Child) (m : Memo) (o o' : Options)
    (banner banner' : String) : Prop where
  /-- A file that is returned with all interfaces is returned with the root's alone. -/
  returns : o.declareReferenced.truthy = true → o'.declareReferenced.truthy = false →
    (∃ text, (generate g o root m).result = .ok text) →
      ∃ text, (generate g o' root m).result = .ok text
  /-- The other two options have no say in whether a file is returned. -/
  returns_iff : o.declareReferenced.truthy = o'.declareReferenced.truthy →
    ((∃ text, (generate g o root m).result = .ok text) ↔
      ∃ text, (generate g o' root m).result = .ok text)
  /-- Two files that are returned leave the same behind, and their declarations compare. -/
  compare : ∀ text text', (generate g o root m).result = .ok text →
    (generate g o' root m).result = .ok text' →
      (generate g o root m).memo = (generate g o' root m).memo ∧
        ∃ rootText d d', rootName g root = .ok rootText ∧
          (runPasses g o root m).result = .ok d ∧ (runPasses g o' root m).result = .ok d' ∧
          text = fileText banner d.texts ∧ text' = fileText banner' d'.texts ∧
          d.Compare g o o' rootText d'
  /-- If not all interfaces are to be declared, a first file declares the root if it is
  an interface, and no other. -/
  rootOnly : o.declareReferenced.truthy = false → ∀ text,
    (generate g o root .empty).result = .ok text →
      ∃ id n d, g.item root = .node id n ∧ (runPasses g o root .empty).result = .ok d ∧
        text = fileText banner d.texts ∧
        (n.kind = .interface →
          ∃ own, Declaration.ofNode g o n = .ok own ∧ d.interfaces = [⟨id, own⟩]) ∧
        (n.kind ≠ .interface → d.interfaces = [])

/-- The options have no say in what is visited, and decide only which interfaces are
declared and whether enums are constant. -/
theorem generate_compares (g : Graph) (root : Child) (m : Memo) (o o' : Options)
    (banner banner' : String) (hbanner : o.banner = .str banner)
    (hbanner' : o'.banner = .str banner') : g.ComparesFiles root m o o' banner banner' := by
  have hwritten : bannerText o = .ok banner := by simp [bannerText, hbanner]
  have hwritten' : bannerText o' = .ok banner' := by simp [bannerText, hbanner']
  refine ⟨?_, ?_, ?_, ?_⟩
  · intro htrue hfalse
    exact generate_returns_of_returns hwritten' fun _ => htrue
  · intro hsame
    exact ⟨generate_returns_of_returns hwritten' fun h => hsame ▸ h,
      generate_returns_of_returns hwritten fun h => hsame ▸ h⟩
  · intro text text' htext htext'
    obtain ⟨b, d, hb, hrun, hmemo, rfl⟩ := generate_eq_ok htext
    obtain ⟨b', d', hb', hrun', hmemo', rfl⟩ := generate_eq_ok htext'
    obtain rfl : b = banner := Except.ok.inj (hb.symm.trans hwritten)
    obtain rfl : b' = banner' := Except.ok.inj (hb'.symm.trans hwritten')
    obtain ⟨hsame, rootText, hroot, hcompare⟩ := runPasses_compare hrun hrun'
    rw [hmemo, hmemo']
    exact ⟨hsame, rootText, d, d', hroot, hrun, hrun', rfl, rfl, hcompare⟩
  · intro hfalse text htext
    obtain ⟨b, d, hb, hrun, -, rfl⟩ := generate_eq_ok htext
    obtain rfl : b = banner := Except.ok.inj (hb.symm.trans hwritten)
    obtain ⟨rootText, hroot, hvisits⟩ := runPasses_visits hrun
    obtain ⟨id, n, hitem, hname⟩ := rootName_eq_ok_iff.mp hroot
    exact ⟨id, n, d, hitem, hrun, rfl,
      (hvisits .interfaces).interfaces_of_root hitem hname hfalse⟩

/-- A receipt with a customer and items, and another node that is called receipt. -/
def receiptGraph : Graph := ⟨#[
  ⟨.interface [⟨some "customer", .node 1, true, false, false⟩,
    ⟨some "items", .node 3, true, false, false⟩,
    ⟨some "previous", .node 5, false, false, false⟩] [], some "receipt", none⟩,
  ⟨.interface [⟨some "status", .node 2, true, false, false⟩] [], some "customer", none⟩,
  ⟨.enum [⟨some "Open", .node 4⟩], some "status", none⟩,
  ⟨.array (.node 6), some "items", none⟩,
  ⟨.literal (.str "open"), none, none⟩,
  ⟨.interface [] [], some "receipt", none⟩,
  ⟨.string, none, none⟩]⟩

/-- All interfaces are to be declared, and enums are constant. -/
def allOptions : Options := ⟨.str "// Shop", .bool true, .bool true⟩

/-- Only the root is to be declared, and enums are not constant. -/
def rootOptions : Options := ⟨.str "", .bool false, .null⟩

theorem receiptGraph_compares :
    allOptions.banner = .str "// Shop" ∧ rootOptions.banner = .str "" ∧
      (generate receiptGraph allOptions (.node 0) .empty).result =
        .ok ("// Shop\n\nexport type Items = string[]\n\nexport interface Receipt \x7b\n" ++
          "customer: Customer\nitems: Items\nprevious?: Receipt\n\x7d\n" ++
          "export interface Customer \x7b\nstatus: Status\n\x7d\n\n" ++
          "export const enum Status \x7b\nOpen = \"open\"\n\x7d\n") ∧
      (generate receiptGraph rootOptions (.node 0) .empty).result =
        .ok ("export type Items = string[]\n\nexport interface Receipt \x7b\n" ++
          "customer: Customer\nitems: Items\nprevious?: Receipt\n\x7d\n\n" ++
          "export enum Status \x7b\nOpen = \"open\"\n\x7d\n") ∧
      receiptGraph.ComparesFiles (.node 0) .empty allOptions rootOptions "// Shop" "" := by
  refine ⟨rfl, rfl, ?_, ?_, generate_compares _ _ _ _ _ _ _ rfl rfl⟩
  · exact eq_ok_of_toOption (by decide +kernel)
  · exact eq_ok_of_toOption (by decide +kernel)

end SchemaDecls
