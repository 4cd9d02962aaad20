import SchemaDecls.Proofs.Descent

/-!
# Recursions that come to an end

Walks and expansions take a depth, beyond which they are cut off with a failure of their
own (`Failure.endlessNesting`).  Here it is shown that they are not, so that the depth is
no part of what they do.

A walk needs no assumption.  It goes down only to nodes that do not count as visited, and
takes its course on one level more than there are such nodes (`Walk.descends_walk`),
whatever cycles there are.  An expansion goes down through unnamed nodes, and remembers
nothing.  It comes to an end if no cycle is made of unnamed nodes alone
(`TypeExpr.expands_render`).  This is so for the right-hand side of an alias as well.
There the node that is declared is expanded although it has a name; but wherever the
expansion comes back to it, it is the node with its name that it meets.

Whatever else is written is put together from expansions, one after another, and from
walks (`Ended.bind`, `Ended.mapM`), so that all of it comes to an end
(`recursion_ends`).
-/

namespace SchemaDecls

/-! ## Expansions -/

namespace TypeExpr

/-- The expansion of a child, with calls that are nested so many levels deep at most, ends
with the result.  It goes down to all children that are written, even where it fails at
one of them. -/
inductive Expands (g : Graph) : Nat → Child → Except Failure String → Prop
  | value {levels : Nat} {c : Child} {v : Value} (hitem : g.item c = .value v) :
      Expands g (levels + 1) c (.error (.unsupported (.value v)))
  | named {levels : Nat} {c : Child} {id : NodeId} {n : Node} {name : String}
      (hitem : g.item c = .node id n) (hname : n.name = some name) :
      Expands g (levels + 1) c (.ok (Identifier.ofName name))
  | unnamed {levels : Nat} {c : Child} {id : NodeId} {n : Node}
      {childText : Child → Except Failure String} (hitem : g.item c = .node id n)
      (hname : n.name = none)
      (hchildren : ∀ d ∈ n.shape.written, Expands g levels d (childText d)) :
      Expands g (levels + 1) c (expandWith g childText n.shape)

variable {g : Graph} {c : Child} {levels depth : Nat} {result : Except Failure String}

/-- Only the children that are written matter to an expansion. -/
theorem expandWith_eq_of_written {f f' : Child → Except Failure String} {s : Shape}
    (h : ∀ d ∈ s.written, f d = f' d) : expandWith g f s = expandWith g f' s := by
  rw [← expandWith_inlined s, ← expandWith_inlined (f := f') s]
  apply expandWith_congr
  apply Shape.Alike.of_children
  intro d hd
  exact ⟨h d hd, rfl⟩

/-- The expansion to any depth that is large enough ends in this way. -/
theorem Expands.renderUpTo_eq (h : Expands g levels c result) (hle : levels ≤ depth) :
    renderUpTo g depth c = result := by
  induction h generalizing depth with
  | value hitem =>
      obtain ⟨k, rfl⟩ : ∃ k, depth = k + 1 := ⟨depth - 1, by omega⟩
      exact renderUpTo_of_value hitem
  | named hitem hname =>
      obtain ⟨k, rfl⟩ : ∃ k, depth = k + 1 := ⟨depth - 1, by omega⟩
      exact renderUpTo_of_name hitem hname
  | unnamed hitem hname _ ih =>
      obtain ⟨k, rfl⟩ : ∃ k, depth = k + 1 := ⟨depth - 1, by omega⟩
      rw [renderUpTo_of_unnamed hitem hname]
      apply expandWith_eq_of_written
      intro d hd
      exact ih d hd (by omega)

/-- An expansion that fits into a depth ends within it. -/
theorem expands_of_fits (hunfolds : g.Unfolds) (h : Fits g depth c) :
    Expands g depth c (renderUpTo g depth c) := by
  induction depth generalizing c with
  | zero => exact absurd h.1 (Nat.lt_irrefl 0)
  | succ depth ih =>
      cases hitem : g.item c with
      | value v =>
          rw [renderUpTo_of_value hitem]
          exact .value hitem
      | node id n =>
          cases hname : n.name with
          | some name =>
              rw [renderUpTo_of_name hitem hname]
              exact .named hitem hname
          | none =>
              rw [renderUpTo_of_unnamed hitem hname]
              apply Expands.unnamed hitem hname
              intro d hd
              exact ih (h.of_child hunfolds hitem hname (Shape.written_subset hd))

/-- Where unnamed nodes do not nest without an end, all expansions end. -/
theorem expands_render (hunfolds : g.Unfolds) (c : Child) :
    Expands g (g.size + 1) c (render g c) :=
  expands_of_fits hunfolds (fits_of_size_lt hunfolds (Nat.lt_succ_self g.size) c)

/-- And they end in no other way. -/
theorem Expands.eq_render (hunfolds : g.Unfolds) (h : Expands g levels c result) :
    result = render g c := by
  have hdepth : g.size < max levels (g.size + 1) := Nat.le_max_right levels (g.size + 1)
  rw [← h.renderUpTo_eq (Nat.le_max_left levels (g.size + 1)),
    renderUpTo_eq_render hunfolds hdepth]

end TypeExpr

/-! ## What is put together from expansions -/

/-- The result is not that of a recursion that was cut off. -/
def Ended {α : Type} (result : Except Failure α) : Prop := result ≠ .error .endlessNesting

namespace Ended

variable {α β : Type}

theorem ok (a : α) : Ended (.ok a) := nofun

theorem error {f : Failure} (h : f ≠ .endlessNesting) : Ended (.error f : Except Failure α) :=
  fun hends => h (Except.error.inj hends)

theorem bind {r : Except Failure α} {k : α → Except Failure β} (h : Ended r)
    (hk : ∀ a, Ended (k a)) : Ended (r >>= k) := by
  intro hends
  rcases bind_eq_error hends with hr | ⟨a, -, ha⟩
  · exact h hr
  · exact hk a ha

theorem map {r : Except Failure α} (h : Ended r) (k : α → β) : Ended (r.map k) :=
  fun hends => h (map_eq_error hends)

theorem mapM {f : α → Except Failure β} {xs : List α} (h : ∀ x ∈ xs, Ended (f x)) :
    Ended (xs.mapM f) := by
  intro hends
  obtain ⟨before, x, after, rfl, hx, -⟩ := mapM_eq_error hends
  exact h x (by simp) hx

end Ended

namespace TypeExpr

variable {g : Graph} {f : Child → Except Failure String}

theorem expandWith_ended {s : Shape} (h : ∀ c ∈ s.written, Ended (f c)) :
    Ended (expandWith g f s) := by
  intro hends
  rcases expandWith_eq_error hends with ⟨c, hc, hfails⟩ | ⟨-, hother⟩
  · exact h c hc hfails
  · contradiction

section

variable (hunfolds : g.Unfolds)

include hunfolds

theorem render_ended (c : Child) : Ended (render g c) := by
  intro hends
  obtain ⟨d, offender, -, -, hother⟩ := render_eq_error hunfolds hends
  contradiction

theorem expand_ended (s : Shape) : Ended (expand g s) :=
  expandWith_ended fun c _ => render_ended hunfolds c

/-- A member list is the expansion of an interface, -/
theorem renderInterfaceBody_ended (properties : List Property) :
    Ended (renderInterfaceBody g properties) :=
  expand_ended hunfolds (.interface properties [])

/-- and members are put together as in the expansion of a union or an intersection. -/
theorem renderSetOperation_ended (s : Shape) : Ended (renderSetOperation g s) := by
  cases s with
  | union children => exact expand_ended hunfolds (.union children)
  | intersection children => exact expand_ended hunfolds (.intersection children)
  | tuple children => exact expand_ended hunfolds (.intersection children)
  | _ => exact .error nofun

end

end TypeExpr

namespace Declaration

variable {g : Graph}

theorem identifier_ended (role : Role) (n : Node) : Ended (identifier role n) := by
  unfold identifier
  split
  · exact .ok _
  · exact .error nofun

theorem superType_ended (c : Child) : Ended (superType g c) := by
  unfold superType
  split
  · exact identifier_ended _ _
  · exact .error nofun

section

variable (hunfolds : g.Unfolds)

include hunfolds

theorem ofEnum_ended (o : Options) (n : Node) (members : List EnumMember) :
    Ended (ofEnum g o n members) := by
  unfold ofEnum
  have hmembers : Ended (members.mapM (enumMember g)) :=
    .mapM fun m _ => (TypeExpr.render_ended hunfolds m.value).map _
  apply hmembers.bind
  intro written
  exact (identifier_ended _ n).bind fun _ => .ok _

theorem ofInterface_ended (n : Node) (properties : List Property) (superTypes : List Child) :
    Ended (ofInterface g n properties superTypes) := by
  unfold ofInterface
  have hsupers : Ended (superTypes.mapM (superType g)) := .mapM fun c _ => superType_ended c
  apply hsupers.bind
  intro supers
  apply (identifier_ended _ n).bind
  intro ident
  exact (TypeExpr.renderInterfaceBody_ended hunfolds properties).bind fun _ => .ok _

theorem ofAlias_ended (n : Node) : Ended (ofAlias g n) := by
  unfold ofAlias
  apply (identifier_ended _ n).bind
  intro ident
  exact (TypeExpr.expand_ended hunfolds n.shape).bind fun _ => .ok _

theorem ofNode_ended (o : Options) (n : Node) : Ended (ofNode g o n) := by
  unfold ofNode
  split
  · exact ofEnum_ended hunfolds o n _
  · exact ofInterface_ended hunfolds n _ _
  · exact ofAlias_ended hunfolds n

end

end Declaration

/-! ## Files -/

theorem Run.andThen_ended {α β : Type} {first : Run α} {next : α → Memo → Run β}
    (h : Ended first.result) (hnext : ∀ a m, Ended (next a m).result) :
    Ended (first.andThen next).result := by
  rw [Run.andThen_result]
  exact h.bind fun a => hnext a first.memo

theorem rootName_ended (g : Graph) (root : Child) : Ended (rootName g root) := by
  unfold rootName
  split
  · exact .error nofun
  · split
    · exact .ok _
    · exact .error nofun

theorem bannerText_ended (o : Options) : Ended (bannerText o) := by
  unfold bannerText
  split
  · exact .ok _
  · split
    · exact .error nofun
    · exact .ok _

section

variable {g : Graph} (hunfolds : g.Unfolds)

include hunfolds

/-- A walk is not cut off, and neither are the declarations that it writes. -/
theorem Walk.walk_ended (o : Options) (p : Pass) (c : Child) (v : Visited) :
    Ended (walk g o p c v).result := by
  intro hends
  have hfails : Fails g o p [c] v .endlessNesting (walk g o p c v).visited :=
    fails_of_walk (by rw [← hends])
  rcases hfails.cause with ⟨offender, hother⟩ | ⟨id, n, -, -, -, -, hown⟩
  · contradiction
  · exact Declaration.ofNode_ended hunfolds o n hown

theorem runPasses_ended (o : Options) (root : Child) (m : Memo) :
    Ended (runPasses g o root m).result := by
  have hsection : ∀ name which m', Ended (runSection g o name which root m').result :=
    fun name which m' => Walk.walk_ended hunfolds o (Pass.ofSection o name which) root _
  unfold runPasses
  cases hname : rootName g root with
  | error f => exact .error fun hends => rootName_ended g root (hname.trans (congrArg _ hends))
  | ok name =>
      apply Run.andThen_ended (hsection _ _ _)
      intro types m₁
      apply Run.andThen_ended (hsection _ _ _)
      intro interfaces m₂
      apply Run.andThen_ended (hsection _ _ _)
      intro enums m₃
      exact .ok _

theorem generate_ended (o : Options) (root : Child) (m : Memo) :
    Ended (generate g o root m).result := by
  unfold generate
  apply Run.andThen_ended (runPasses_ended hunfolds o root m)
  intro declarations m'
  exact (bannerText_ended o).map _

end

/-- All recursion comes to an end.  A walk enters each node at most once, and only nodes
that do not count as visited, on one level more than there are such nodes; a greater depth
makes no difference to it.  Where no cycle is made of unnamed nodes alone, expansions end
on one level more than there are nodes, and so does whatever is put together from them, up
to whole files. -/
theorem recursion_ends (g : Graph) :
    (∀ (o : Options) (name : Option String) (which : Section) (c : Child) (v : Visited),
      ∃ trail,
        Descends g o (Pass.ofSection o name which) ((g.fresh v).card + 1) [c] v trail
          (Walk.walk g o (Pass.ofSection o name which) c v) ∧
        (∀ levels trail' out, Descends g o (Pass.ofSection o name which) levels [c] v trail' out →
          trail = trail' ∧ Walk.walk g o (Pass.ofSection o name which) c v = out) ∧
        (∀ depth, (g.fresh v).card < depth →
          Walk.walkUpTo g o (Pass.ofSection o name which) depth c v =
            Walk.walk g o (Pass.ofSection o name which) c v) ∧
        trail.Nodup ∧ (∀ id ∈ trail, id ∈ g.fresh v) ∧
        (Walk.walk g o (Pass.ofSection o name which) c v).visited.ids = trail ++ v.ids) ∧
      (g.Unfolds →
        (∀ c, TypeExpr.Expands g (g.size + 1) c (TypeExpr.render g c) ∧
          (∀ levels result, TypeExpr.Expands g levels c result → result = TypeExpr.render g c) ∧
          (∀ depth, g.size < depth → TypeExpr.renderUpTo g depth c = TypeExpr.render g c) ∧
          Ended (TypeExpr.render g c)) ∧
        (∀ s, Ended (TypeExpr.expand g s)) ∧
        (∀ properties, Ended (TypeExpr.renderInterfaceBody g properties)) ∧
        (∀ s, Ended (TypeExpr.renderSetOperation g s)) ∧
        (∀ o n members, Ended (Declaration.ofEnum g o n members)) ∧
        (∀ n properties superTypes, Ended (Declaration.ofInterface g n properties superTypes)) ∧
        (∀ n, Ended (Declaration.ofAlias g n)) ∧
        ∀ o root m, Ended (generate g o root m).result) := by
  constructor
  · intro o name which c v
    obtain ⟨trail, h⟩ := Walk.descends_walk g o (Pass.ofSection o name which) c v
    have htrail := h.trail_entered
    refine ⟨trail, h, fun levels trail' out h' => h.unique h',
      fun depth hdepth => Walk.walkUpTo_eq_walk hdepth, htrail.nodup, ?_, htrail.ids_eq⟩
    intro id hid
    obtain ⟨n, hn⟩ := htrail.exists_get? hid
    exact Graph.mem_fresh_iff.mpr ⟨n, hn, htrail.holds_eq_false hid hn⟩
  · intro hunfolds
    have hrender : ∀ c, TypeExpr.Expands g (g.size + 1) c (TypeExpr.render g c) ∧
        (∀ levels result, TypeExpr.Expands g levels c result → result = TypeExpr.render g c) ∧
        (∀ depth, g.size < depth → TypeExpr.renderUpTo g depth c = TypeExpr.render g c) ∧
        Ended (TypeExpr.render g c) := fun c =>
      ⟨TypeExpr.expands_render hunfolds c, fun _ _ h => h.eq_render hunfolds,
        fun _ hdepth => TypeExpr.renderUpTo_eq_render hunfolds hdepth c,
        TypeExpr.render_ended hunfolds c⟩
    exact ⟨hrender, TypeExpr.expand_ended hunfolds, TypeExpr.renderInterfaceBody_ended hunfolds,
      TypeExpr.renderSetOperation_ended hunfolds, Declaration.ofEnum_ended hunfolds,
      Declaration.ofInterface_ended hunfolds, Declaration.ofAlias_ended hunfolds,
      generate_ended hunfolds⟩

/-- A value of the format JSON.  Its node lies on two cycles through itself, one by way of
an array, the other by way of an interface. -/
def jsonGraph : Graph := ⟨#[
  ⟨.union [.node 1, .node 2, .node 3], some "json", none⟩,
  ⟨.string, none, none⟩,
  ⟨.array (.node 0), none, none⟩,
  ⟨.interface [⟨some "value", .node 0, true, false, false⟩] [], none, none⟩]⟩

/-- The walk for aliases enters each node once.  The alias is expanded once, and refers to
itself within. -/
theorem jsonGraph_ends :
    jsonGraph.Refers 0 2 ∧ jsonGraph.Refers 2 0 ∧
      Descends jsonGraph .unbannered .types 5 [.node 0] .empty [3, 2, 1, 0]
        (Walk.walk jsonGraph .unbannered .types (.node 0) .empty) ∧
      jsonGraph.Unfolds ∧ (∀ o root m, Ended (generate jsonGraph o root m).result) ∧
      (generate jsonGraph .unbannered (.node 0) .empty).result =
        .ok "export type Json = (string | Json[] | \x7b\nvalue: Json\n\x7d)\n" := by
  have hunfolds : jsonGraph.Unfolds := Graph.unfolds_of_forall_lt (by decide)
  obtain ⟨hwalk, hrest⟩ := recursion_ends jsonGraph
  obtain ⟨trail, hcourse, -, -, -, -, hids⟩ :=
    hwalk .unbannered none .types (.node 0) .empty
  obtain rfl : trail = [3, 2, 1, 0] := by
    have htrail : (Walk.walk jsonGraph .unbannered .types (.node 0) .empty).visited.ids =
        [3, 2, 1, 0] := by decide +kernel
    exact (List.append_nil trail).symm.trans (hids.symm.trans htrail)
  obtain ⟨-, -, -, -, -, -, -, hgenerate⟩ := hrest hunfolds
  exact ⟨⟨_, _, rfl, rfl, .tail _ (.head _)⟩, ⟨_, _, rfl, rfl, .head _⟩,
    hcourse, hunfolds, hgenerate, eq_ok_of_toOption (by decide +kernel)⟩

/-- Without the assumption expansions do not come to an end. -/
example : TypeExpr.render ⟨#[⟨.array (.node 0), none, none⟩]⟩ (.node 0) =
    .error .endlessNesting := rfl

end SchemaDecls
