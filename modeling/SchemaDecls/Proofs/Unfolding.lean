import SchemaDecls.Proofs.Termination
import SchemaDecls.Session

/-!
# What an expression depends on

An expression is made of what its expansion comes to, and of nothing else.  The expansion
starts at a child, goes on from unnamed nodes to what is written of them, one child after
another, and stops at names and values.  `TypeExpr.Course g c ds` says that it comes to
`ds`, in this order.

Two things follow.  There is no expression exactly if something on the course has none,
and then the first such thing is what the failure is about
(`TypeExpr.render_eq_error_iff_first`).  What stands behind it, or beyond a name, or among
the properties that are no members, does not count.  And two children have the same
expression, or fail alike, if their expansions take the same course, whatever else their
graphs are like and whatever the options are (`TypeExpr.render_eq_of_similarInline`).
-/

namespace SchemaDecls

/-! ## First failures -/

/-- The failure that a result is, if it is one. -/
def failure? {α : Type} : Except Failure α → Option Failure
  | .error e => some e
  | .ok _ => none

section

variable {α β : Type}

theorem failure?_eq_some_iff {r : Except Failure α} {e : Failure} :
    failure? r = some e ↔ r = .error e := by
  cases r <;> simp [failure?]

theorem failure?_map (r : Except Failure α) (k : α → β) : failure? (r.map k) = failure? r := by
  cases r <;> rfl

theorem failure?_bind_ok (r : Except Failure α) (k : α → β) :
    failure? (r >>= fun a => .ok (k a)) = failure? r := by
  cases r <;> rfl

/-- Steps one after another fail as the first of them does that fails. -/
theorem failure?_mapM (f : α → Except Failure β) (xs : List α) :
    failure? (xs.mapM f) = xs.findSome? fun x => failure? (f x) := by
  induction xs with
  | nil => rfl
  | cons x rest ih =>
      rw [List.mapM_cons, List.findSome?_cons, ← ih]
      cases hx : f x with
      | error e => rfl
      | ok y => exact failure?_bind_ok (rest.mapM f) (y :: ·)

/-- To look for something in several lists is to look for it in all of them together. -/
theorem findSome?_flatMap {γ : Type} {f : β → Option γ} {first : α → Option γ} {k : α → List β}
    {xs : List α} (h : ∀ x ∈ xs, first x = (k x).findSome? f) :
    xs.findSome? first = (xs.flatMap k).findSome? f := by
  induction xs with
  | nil => rfl
  | cons x rest ih =>
      obtain ⟨hx, hrest⟩ := List.forall_mem_cons.mp h
      rw [List.findSome?_cons, List.flatMap_cons, List.findSome?_append, ← hx, ih hrest]
      cases first x <;> rfl

end

namespace TypeExpr

variable {g : Graph} {c d : Child} {ds : List Child}

/-- A shape fails as the first of the children does that are written, if it has an expression
at all. -/
theorem failure?_expandWith (f : Child → Except Failure String) {s : Shape}
    (henum : s.kind ≠ .enum) (hbare : s.kind ≠ .bare) :
    failure? (expandWith g f s) = s.written.findSome? fun c => failure? (f c) := by
  have hlist : ∀ (children : List Child) (combine : List String → String),
      failure? ((children.mapM f).map combine) = children.findSome? fun c => failure? (f c) :=
    fun children combine => (failure?_map _ combine).trans (failure?_mapM f children)
  cases s with
  | array element =>
      show failure? ((f element).map (· ++ "[]")) = [element].findSome? fun c => failure? (f c)
      rw [failure?_map, List.findSome?_singleton]
  | tuple children => exact hlist children tuple
  | union children => exact hlist children (setOperation unionSeparator)
  | intersection children => exact hlist children (setOperation intersectionSeparator)
  | interface properties superTypes =>
      have hmember : ∀ p : Property, failure? (member g f p) = failure? (f p.type) :=
        fun p => failure?_bind_ok (f p.type) _
      have hwritten : (Shape.interface properties superTypes).written =
          (properties.filter isMember).map Property.type := by
        simp [Shape.written, Shape.inlined, Shape.children, interfaceChildren]
      rw [hwritten, List.findSome?_map]
      show failure? ((members g f properties).map interfaceBody) = _
      rw [failure?_map, members, failure?_mapM]
      simp [Function.comp_def, hmember]
  | enum members => exact absurd rfl henum
  | bare => exact absurd rfl hbare
  | _ => rfl

/-! ## The course of an expansion -/

/-- The expansion of the child comes to these, in this order: to the child itself, and from
an unnamed node on to whatever the children come to that are written of it, one after
another. -/
inductive Course (g : Graph) : Child → List Child → Prop
  | stop {c : Child} (h : ∀ id n, g.item c = .node id n → n.name ≠ none) : Course g c [c]
  | unnamed {c : Child} {id : NodeId} {n : Node} {courseOf : Child → List Child}
      (hitem : g.item c = .node id n) (hname : n.name = none)
      (hchildren : ∀ d ∈ n.shape.written, Course g d (courseOf d)) :
      Course g c (c :: n.shape.written.flatMap courseOf)

/-- An expansion that ends has a course. -/
theorem Expands.exists_course {levels : Nat} {result : Except Failure String}
    (h : Expands g levels c result) : ∃ ds, Course g c ds := by
  induction h with
  | value hitem => exact ⟨_, .stop (by simp [hitem])⟩
  | named hitem hname => exact ⟨_, .stop (by simp [hitem, hname])⟩
  | @unnamed levels c id n childText hitem hname _ ih =>
      -- Only children that are written have a course, so any list will do for the others.
      have hcourse : ∀ d, ∃ ds, d ∈ n.shape.written → Course g d ds := by
        intro d
        by_cases hd : d ∈ n.shape.written
        · obtain ⟨ds, hds⟩ := ih d hd
          exact ⟨ds, fun _ => hds⟩
        · exact ⟨[], fun h => absurd h hd⟩
      choose courseOf hcourse using hcourse
      exact ⟨_, .unnamed hitem hname hcourse⟩

/-- What is on the course is what the expansion meets. -/
theorem Course.mem_iff_meets (h : Course g c ds) : d ∈ ds ↔ Meets g c d := by
  induction h with
  | @stop c hnamed =>
      rw [List.mem_singleton]
      constructor
      · rintro rfl
        exact .here
      · intro hmeets
        cases hmeets with
        | here => rfl
        | inside hitem hname => exact absurd hname (hnamed _ _ hitem)
  | @unnamed c id n courseOf hitem hname _ ih =>
      rw [List.mem_cons, List.mem_flatMap]
      constructor
      · rintro (rfl | ⟨next, hnext, hd⟩)
        · exact .here
        · exact .inside hitem hname hnext ((ih next hnext).mp hd)
      · intro hmeets
        cases hmeets with
        | here => exact .inl rfl
        | @inside _ next _ id' n' hitem' _ hnext hrest =>
            obtain ⟨-, rfl⟩ := Graph.item_inj hitem hitem'
            exact .inr ⟨next, hnext, (ih next hnext).mpr hrest⟩

/-! ## What has no expression -/

/-- How an expansion fails that comes to the child, if the child has no expression. -/
def refusal? (g : Graph) (c : Child) : Option Failure :=
  match g.item c with
  | .value v => some (.unsupported (.value v))
  | .node _ n =>
      if n.name = none ∧ (n.kind = .enum ∨ n.kind = .bare) then some (.unsupported n.offender)
      else none

theorem refusal?_eq_some_iff {e : Failure} :
    refusal? g c = some e ↔ ∃ offender, Offends g c offender ∧ e = .unsupported offender := by
  unfold refusal?
  cases hitem : g.item c with
  | value v =>
      constructor
      · intro he
        exact ⟨.value v, .value hitem, (Option.some.inj he).symm⟩
      · rintro ⟨offender, hoffends, rfl⟩
        cases hoffends with
        | value hitem' => rw [Item.value.inj (hitem.symm.trans hitem')]
        | node hitem' => rw [hitem] at hitem'; contradiction
  | node id n =>
      constructor
      · intro he
        by_cases hkind : n.name = none ∧ (n.kind = .enum ∨ n.kind = .bare)
        · simp only [hkind] at he
          exact ⟨n.offender, .node hitem hkind.1 hkind.2, (Option.some.inj (by simpa using he)).symm⟩
        · simp [hkind] at he
      · rintro ⟨offender, hoffends, rfl⟩
        cases hoffends with
        | value hitem' => rw [hitem] at hitem'; contradiction
        | node hitem' hname hkind =>
            obtain ⟨-, rfl⟩ := Graph.item_inj hitem hitem'
            simp [hname, hkind]

theorem refusal?_eq_none_iff : refusal? g c = none ↔ ∀ offender, ¬ Offends g c offender := by
  constructor
  · intro hnone offender hoffends
    have hsome := refusal?_eq_some_iff.mpr ⟨offender, hoffends, rfl⟩
    rw [hnone] at hsome
    contradiction
  · intro hnone
    by_contra hsome
    obtain ⟨e, he⟩ := Option.ne_none_iff_exists'.mp hsome
    obtain ⟨offender, hoffends, -⟩ := refusal?_eq_some_iff.mp he
    exact hnone offender hoffends

theorem refusal?_of_unnamed {id : NodeId} {n : Node} (hitem : g.item c = .node id n)
    (hname : n.name = none) (henum : n.shape.kind ≠ .enum) (hbare : n.shape.kind ≠ .bare) :
    refusal? g c = none := by
  simp [refusal?, hitem, hname, Node.kind, henum, hbare]

theorem expandWith_of_kind (f : Child → Except Failure String) {s : Shape}
    (h : s.kind = .enum ∨ s.kind = .bare) :
    expandWith g f s = .error (.unsupported (.node s.kind none)) := by
  cases s with
  | enum members => rfl
  | bare => rfl
  | _ => simp [Shape.kind] at h

/-- An expansion fails over the first thing on its course that has no expression. -/
theorem Expands.failure?_eq {levels : Nat} {result : Except Failure String}
    (h : Expands g levels c result) (hcourse : Course g c ds) :
    failure? result = ds.findSome? (refusal? g) := by
  induction h generalizing ds with
  | @value levels c v hitem =>
      cases hcourse with
      | stop => simp [failure?, refusal?, hitem]
      | unnamed hitem' => rw [hitem] at hitem'; contradiction
  | @named levels c id n name hitem hname =>
      cases hcourse with
      | stop => simp [failure?, refusal?, hitem, hname]
      | unnamed hitem' hname' =>
          obtain ⟨-, rfl⟩ := Graph.item_inj hitem hitem'
          rw [hname] at hname'
          contradiction
  | @unnamed levels c id n childText hitem hname _ ih =>
      cases hcourse with
      | stop hnamed => exact absurd hname (hnamed id n hitem)
      | @unnamed _ _ _ courseOf hitem' _ hcourses =>
          obtain ⟨-, rfl⟩ := Graph.item_inj hitem hitem'
          by_cases hkind : n.shape.kind = .enum ∨ n.shape.kind = .bare
          · have hrefused : refusal? g c = some (.unsupported (.node n.shape.kind none)) := by
              simp [refusal?, hitem, hname, Node.offender, Node.kind, hkind]
            rw [expandWith_of_kind childText hkind, List.findSome?_cons, hrefused]
            rfl
          · obtain ⟨henum, hbare⟩ := not_or.mp hkind
            rw [failure?_expandWith childText henum hbare, List.findSome?_cons,
              refusal?_of_unnamed hitem hname henum hbare]
            exact findSome?_flatMap fun d hd => ih d hd (hcourses d hd)

/-- There is no expression exactly if the expansion meets something that has none: a value, or
an unnamed node that is an enum or of no type.  Whatever order it is that the expansion comes
to things in, the failure is about the first of them. -/
theorem render_eq_error_iff_first (hunfolds : g.Unfolds) (c : Child) :
    ((∃ e, render g c = .error e) ↔ ∃ d offender, Meets g c d ∧ Offends g d offender) ∧
      (∃ ds, Course g c ds) ∧
      ∀ ds, Course g c ds → (∀ d, d ∈ ds ↔ Meets g c d) ∧
        ∀ e, render g c = .error e ↔
          ∃ before d after offender, ds = before ++ d :: after ∧
            (∀ b ∈ before, ∀ other, ¬ Offends g b other) ∧
            Offends g d offender ∧ e = .unsupported offender := by
  have hexpands := expands_render hunfolds c
  have hfirst : ∀ ds, Course g c ds → ∀ e, render g c = .error e ↔
      ∃ before d after offender, ds = before ++ d :: after ∧
        (∀ b ∈ before, ∀ other, ¬ Offends g b other) ∧
        Offends g d offender ∧ e = .unsupported offender := by
    intro ds hcourse e
    rw [← failure?_eq_some_iff, hexpands.failure?_eq hcourse, List.findSome?_eq_some_iff]
    constructor
    · rintro ⟨before, d, after, hsplit, hd, hbefore⟩
      obtain ⟨offender, hoffends, rfl⟩ := refusal?_eq_some_iff.mp hd
      exact ⟨before, d, after, offender, hsplit,
        fun b hb => refusal?_eq_none_iff.mp (hbefore b hb), hoffends, rfl⟩
    · rintro ⟨before, d, after, offender, hsplit, hbefore, hoffends, rfl⟩
      exact ⟨before, d, after, hsplit, refusal?_eq_some_iff.mpr ⟨offender, hoffends, rfl⟩,
        fun b hb => refusal?_eq_none_iff.mpr (hbefore b hb)⟩
  obtain ⟨ds, hcourse⟩ := hexpands.exists_course
  refine ⟨?_, ⟨ds, hcourse⟩, fun ds' hcourse' =>
    ⟨fun d => hcourse'.mem_iff_meets, hfirst ds' hcourse'⟩⟩
  constructor
  · rintro ⟨e, he⟩
    obtain ⟨before, d, after, offender, rfl, -, hoffends, -⟩ := (hfirst ds hcourse e).mp he
    exact ⟨d, offender, hcourse.mem_iff_meets.mp (by simp), hoffends⟩
  · rintro ⟨d, offender, hmeets, hoffends⟩
    have hrefused : refusal? g d = some (.unsupported offender) :=
      refusal?_eq_some_iff.mpr ⟨offender, hoffends, rfl⟩
    have hsome : failure? (render g c) ≠ none := by
      rw [hexpands.failure?_eq hcourse]
      intro hnone
      have hpassed := List.findSome?_eq_none_iff.mp hnone d (hcourse.mem_iff_meets.mpr hmeets)
      rw [hrefused] at hpassed
      contradiction
    obtain ⟨e, he⟩ := Option.ne_none_iff_exists'.mp hsome
    exact ⟨e, failure?_eq_some_iff.mp he⟩

/-- A form.  A value is extended, one stands among the properties that are no members, and one
within the owner, who has a name.  Of the states of the form, one is an unnamed enum and
another one a node of no type. -/
def formGraph : Graph := ⟨#[
  ⟨.interface [⟨some "title", .node 3, true, false, false⟩,
    ⟨some "^x-", .value .null, true, true, false⟩,
    ⟨some "owner", .node 1, true, false, false⟩,
    ⟨some "state", .node 2, true, false, false⟩] [.value .null], none, none⟩,
  ⟨.array (.value .null), some "person", none⟩,
  ⟨.union [.node 3, .node 4, .node 5], none, none⟩,
  ⟨.string, none, none⟩,
  ⟨.enum [], none, none⟩,
  ⟨.bare, none, none⟩]⟩

/-- It fails for the enum. -/
theorem formGraph_render_eq_error :
    formGraph.Unfolds ∧
      Course formGraph (.node 0)
        ([.node 0, .node 3, .node 1, .node 2, .node 3] ++ .node 4 :: [.node 5]) ∧
      render formGraph (.node 0) = .error (.unsupported (.node .enum none)) := by
  have hunfolds : formGraph.Unfolds := Graph.unfolds_of_forall_lt (by decide)
  have hleaf : ∀ (id : NodeId) (n : Node), formGraph.item (.node id) = .node id n →
      n.name = none → n.shape.written = [] → Course formGraph (.node id) [.node id] := by
    intro id n hitem hname hwritten
    have hcourse : Course formGraph (.node id) (.node id :: n.shape.written.flatMap fun d => [d]) :=
      .unnamed hitem hname (by simp [hwritten])
    rwa [hwritten] at hcourse
  have howner : Course formGraph (.node 1) [.node 1] := by
    apply Course.stop
    intro id n hitem
    obtain ⟨-, rfl⟩ := Graph.item_inj (c := .node 1) rfl hitem
    exact Option.some_ne_none "person"
  have hstate : Course formGraph (.node 2) [.node 2, .node 3, .node 4, .node 5] := by
    have hitem : formGraph.item (.node 2) =
        .node 2 ⟨.union [.node 3, .node 4, .node 5], none, none⟩ := rfl
    refine @Course.unnamed _ _ _ _ (fun d => [d]) hitem rfl ?_
    show ∀ d ∈ [Child.node 3, .node 4, .node 5], Course formGraph d [d]
    simp [hleaf 3 _ rfl rfl rfl, hleaf 4 _ rfl rfl rfl, hleaf 5 _ rfl rfl rfl]
  have hcourse : Course formGraph (.node 0)
      [.node 0, .node 3, .node 1, .node 2, .node 3, .node 4, .node 5] := by
    let courseOf : Child → List Child
      | .node 2 => [.node 2, .node 3, .node 4, .node 5]
      | d => [d]
    obtain ⟨n, hn⟩ : ∃ n, formGraph.get? 0 = some n := ⟨_, rfl⟩
    have hitem := Graph.item_eq_node_iff.mpr ⟨rfl, hn⟩
    obtain rfl := Option.some.inj hn
    refine @Course.unnamed _ _ _ _ courseOf hitem rfl ?_
    show ∀ d ∈ [Child.node 3, .node 1, .node 2], Course formGraph d (courseOf d)
    simp [courseOf, hleaf 3 _ rfl rfl rfl, howner, hstate]
  have hpassed : ∀ b ∈ [Child.node 0, .node 3, .node 1, .node 2, .node 3],
      ∀ other, ¬ Offends formGraph b other := by
    intro b hb
    apply refusal?_eq_none_iff.mp
    simp only [List.mem_cons, List.not_mem_nil, or_false] at hb
    rcases hb with rfl | rfl | rfl | rfl | rfl <;> rfl
  have hoffends : Offends formGraph (.node 4) (.node .enum none) :=
    Offends.node (c := .node 4) (n := ⟨.enum [], none, none⟩) rfl rfl (.inl rfl)
  obtain ⟨-, -, hfirst⟩ := render_eq_error_iff_first hunfolds (.node 0)
  exact ⟨hunfolds, hcourse, ((hfirst _ hcourse).2 _).mpr
    ⟨_, .node 4, [.node 5], _, rfl, hpassed, hoffends, rfl⟩⟩

/-! ## What does not matter -/

/-- Children that correspond have the same expression, or fail alike, and sessions answer
alike when they are asked for it.  Related nodes have to agree in their names, and where they
have none, in what is written of them.  That they are shared or copied, what stands behind a
name, and the cycles that lead through it do not matter, and neither do the options or what
has been visited. -/
theorem render_eq_of_similarInline {g' : Graph} {rel : NodeId → NodeId → Prop} {c' : Child}
    (hunfolds : g.Unfolds) (hunfolds' : g'.Unfolds) (h : g.SimilarInline g' rel)
    (hc : g.Corresponds g' rel c c') :
    render g c = render g' c' ∧
      ∀ o o' m m', ((Session.mk g o m).step (.render c)).1 =
        ((Session.mk g' o' m').step (.render c')).1 := by
  have hrender := render_congr hunfolds hunfolds' h hc
  refine ⟨hrender, fun o o' m m' => ?_⟩
  show (render g c).map Reply.text = (render g' c').map Reply.text
  rw [hrender]

/-- Goods with a price.  The price has a name and comes back to the goods, and there is one
label for all. -/
def goodsGraph : Graph := ⟨#[
  ⟨.interface [⟨some "price", .node 1, true, false, false⟩,
    ⟨some "^x-", .value .null, true, true, false⟩,
    ⟨some "tags", .node 2, true, false, false⟩,
    ⟨some "label", .node 3, true, false, false⟩] [.node 1], none, none⟩,
  ⟨.interface [⟨some "goods", .node 0, true, false, false⟩] [], some "price", none⟩,
  ⟨.array (.node 3), none, none⟩,
  ⟨.string, none, some "Plain text."⟩]⟩

/-- The price is a number here, and there are two labels. -/
def plainGoodsGraph : Graph := ⟨#[
  ⟨.interface [⟨some "price", .node 1, true, false, false⟩,
    ⟨some "tags", .node 2, true, false, false⟩,
    ⟨some "label", .node 4, true, false, false⟩] [], none, none⟩,
  ⟨.number, some "price", none⟩,
  ⟨.array (.node 3), none, none⟩,
  ⟨.string, none, some "Plain text."⟩,
  ⟨.string, none, some "Plain text."⟩]⟩

/-- Which node stands for which. -/
def goodsPairs : List (NodeId × NodeId) := [(0, 0), (1, 1), (2, 2), (3, 3), (3, 4)]

theorem goodsGraph_render_eq :
    goodsGraph.Unfolds ∧ plainGoodsGraph.Unfolds ∧
      goodsGraph.SimilarInline plainGoodsGraph (fun a b => (a, b) ∈ goodsPairs) ∧
      render goodsGraph (.node 0) = render plainGoodsGraph (.node 0) ∧
      ∀ o m m', ((Session.mk goodsGraph o m).step (.render (.node 0))).1 =
        ((Session.mk plainGoodsGraph .default m').step (.render (.node 0))).1 := by
  have hunfolds : goodsGraph.Unfolds := Graph.unfolds_of_forall_lt (by decide)
  have hunfolds' : plainGoodsGraph.Unfolds := Graph.unfolds_of_forall_lt (by decide)
  have hpair : ∀ a b n n', goodsGraph.get? a = some n → plainGoodsGraph.get? b = some n' →
      (a, b) ∈ goodsPairs → goodsGraph.Corresponds plainGoodsGraph
        (fun a b => (a, b) ∈ goodsPairs) (.node a) (.node b) :=
    fun a b n n' ha hb hrel =>
      .node (Graph.item_eq_node_iff.mpr ⟨rfl, ha⟩) (Graph.item_eq_node_iff.mpr ⟨rfl, hb⟩) hrel
  have hsimilar :
      goodsGraph.SimilarInline plainGoodsGraph (fun a b => (a, b) ∈ goodsPairs) := by
    intro a b hrel
    simp only [goodsPairs, List.mem_cons, Prod.mk.injEq, List.not_mem_nil, or_false] at hrel
    rcases hrel with ⟨rfl, rfl⟩ | ⟨rfl, rfl⟩ | ⟨rfl, rfl⟩ | ⟨rfl, rfl⟩ | ⟨rfl, rfl⟩
    · refine ⟨_, _, rfl, rfl, rfl, fun _ => rfl, fun _ => .interface ?_ .nil⟩
      exact .cons ⟨rfl, hpair 1 1 _ _ rfl rfl (by decide), rfl, rfl, rfl⟩
        (.cons ⟨rfl, hpair 2 2 _ _ rfl rfl (by decide), rfl, rfl, rfl⟩
          (.cons ⟨rfl, hpair 3 4 _ _ rfl rfl (by decide), rfl, rfl, rfl⟩ .nil))
    · exact ⟨_, _, rfl, rfl, rfl, nofun, nofun⟩
    · exact ⟨_, _, rfl, rfl, rfl, fun _ => rfl,
        fun _ => .array (hpair 3 3 _ _ rfl rfl (by decide))⟩
    · exact ⟨_, _, rfl, rfl, rfl, fun _ => rfl, fun _ => .leaf rfl⟩
    · exact ⟨_, _, rfl, rfl, rfl, fun _ => rfl, fun _ => .leaf rfl⟩
  obtain ⟨hrender, hreply⟩ := render_eq_of_similarInline hunfolds hunfolds' hsimilar
    (hpair 0 0 _ _ rfl rfl (by decide))
  exact ⟨hunfolds, hunfolds', hsimilar, hrender, fun o m m' => hreply o .default m m'⟩

end TypeExpr

end SchemaDecls
