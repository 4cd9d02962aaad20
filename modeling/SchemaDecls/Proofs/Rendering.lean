import SchemaDecls.Declaration
import SchemaDecls.Proofs.Alike

/-!
# Expressions and declarations of nodes that are alike

A type expression does not depend on where its node stands.  Expanded to one and
the same depth, children that correspond have the same expression, or fail alike
(`TypeExpr.renderUpTo_congr`), for the expansion asks for nothing beyond
`Graph.SimilarInline`.  The depth that `TypeExpr.render` takes is that of the
graph, however, and two graphs may differ in size.  Here the cycles come in.
Without a cycle of unnamed nodes, the rank of a node bounds how deep its expansion
goes, and all depths beyond that are alike (`TypeExpr.renderUpTo_eq_of_fits`).  So
`TypeExpr.render_congr` holds of the expressions themselves, and what is true of
expressions is true of the declarations that are made of them
(`Declaration.ofNode_congr`).
-/

namespace SchemaDecls

/-- Lists whose elements have the same results one by one have the same results. -/
theorem mapM_eq_of_forall₂ {α β γ : Type} {f : α → Except Failure γ} {f' : β → Except Failure γ}
    {xs : List α} {ys : List β} (h : List.Forall₂ (fun x y => f x = f' y) xs ys) :
    xs.mapM f = ys.mapM f' := by
  induction h with
  | nil => rfl
  | cons hhead _ ih => rw [List.mapM_cons, List.mapM_cons, hhead, ih]

namespace TypeExpr

variable {g g' : Graph} {rel : NodeId → NodeId → Prop} {c c' : Child}

/-! ## One level -/

/-- Children that are written alike, with the same comment above. -/
def SameText (g g' : Graph) (f f' : Child → Except Failure String) (c c' : Child) : Prop :=
  f c = f' c' ∧ inlineComment? g c = inlineComment? g' c'

section

variable {f f' : Child → Except Failure String}

theorem member_congr {p p' : Property} (h : p.Alike (SameText g g' f f') p') :
    member g f p = member g' f' p' := by
  unfold member
  rw [h.type.1, h.type.2, h.key, h.required]

theorem members_congr {ps ps' : List Property}
    (h : List.Forall₂ (Property.Alike (SameText g g' f f')) ps ps') :
    members g f ps = members g' f' ps' :=
  mapM_eq_of_forall₂ ((Property.Alike.filter_isMember h).imp fun _ _ hp => member_congr hp)

theorem expandWith_congr {s s' : Shape} (h : s.Alike (SameText g g' f f') s') :
    expandWith g f s = expandWith g' f' s' := by
  have hlist : ∀ cs cs', List.Forall₂ (SameText g g' f f') cs cs' → cs.mapM f = cs'.mapM f' :=
    fun _ _ hcs => mapM_eq_of_forall₂ (hcs.imp fun _ _ hc => hc.1)
  cases h with
  | leaf hleaf =>
      cases s with
      | array | tuple | union | intersection | interface | enum => contradiction
      | _ => rfl
  | array hc => simp only [expandWith, hc.1]
  | tuple hcs => simp only [expandWith, hlist _ _ hcs]
  | union hcs => simp only [expandWith, hlist _ _ hcs]
  | intersection hcs => simp only [expandWith, hlist _ _ hcs]
  | interface hproperties _ => simp only [expandWith, members_congr hproperties]
  | enum _ => rfl

/-- The expansion does not look beyond what is written inside of other things. -/
theorem expandWith_inlined (s : Shape) : expandWith g f s.inlined = expandWith g f s := by
  cases s with
  | interface properties superTypes => simp [Shape.inlined, expandWith, members]
  | _ => rfl

end

/-! ## All levels -/

theorem inlineComment?_congr (h : g.SimilarInline g' rel) (hc : g.Corresponds g' rel c c') :
    inlineComment? g c = inlineComment? g' c' := by
  rcases h.cases hc with ⟨v, hitem, hitem'⟩ | ⟨a, b, n, n', hitem, hitem', halike⟩
  · simp only [inlineComment?, hitem, hitem']
  · have hnames : n.hasName = n'.hasName := by rw [Node.hasName, Node.hasName, halike.name]
    simp only [inlineComment?, hitem, hitem', hnames]
    cases hnamed : n'.hasName with
    | true => rfl
    | false =>
        have hname : n.name = none := by simpa [Node.hasName, halike.name] using hnamed
        simpa using halike.comment hname

/-- Children that correspond have the same expression at each depth, or fail alike. -/
theorem renderUpTo_congr (h : g.SimilarInline g' rel) (depth : Nat)
    (hc : g.Corresponds g' rel c c') : renderUpTo g depth c = renderUpTo g' depth c' := by
  induction depth generalizing c c' with
  | zero => rfl
  | succ depth ih =>
      rcases h.cases hc with ⟨v, hitem, hitem'⟩ | ⟨a, b, n, n', hitem, hitem', halike⟩
      · rw [renderUpTo_of_value hitem, renderUpTo_of_value hitem']
      · cases hname : n.name with
        | some name =>
            rw [renderUpTo_of_name hitem hname,
              renderUpTo_of_name hitem' (halike.name.symm.trans hname)]
        | none =>
            rw [renderUpTo_of_unnamed hitem hname,
              renderUpTo_of_unnamed hitem' (halike.name.symm.trans hname),
              ← expandWith_inlined n.shape, ← expandWith_inlined n'.shape]
            apply expandWith_congr
            apply (halike.shape hname).mono
            intro d d' hd
            exact ⟨ih hd, inlineComment?_congr h hd⟩

/-! ## Depths -/

/-- The expansion of the child does not go deeper. -/
def Fits (g : Graph) (depth : Nat) (c : Child) : Prop :=
  0 < depth ∧ ∀ id n, g.item c = .node id n → n.name = none →
    rank g.Nests g.size id + 1 < depth

theorem fits_of_size_lt (hunfolds : g.Unfolds) {depth : Nat} (h : g.size < depth) (c : Child) :
    Fits g depth c := by
  refine ⟨by omega, ?_⟩
  intro id n hitem _
  have hn := Graph.get?_of_item hitem
  have hrank := rank_lt_of_lt hunfolds (Graph.lt_size_of_get? hn)
  omega

/-- One level is enough for the step from an unnamed node to its children. -/
theorem Fits.of_child (hunfolds : g.Unfolds) {depth : Nat} {id : NodeId} {n : Node}
    (h : Fits g (depth + 1) c) (hitem : g.item c = .node id n) (hname : n.name = none)
    {d : Child} (hd : d ∈ n.shape.children) : Fits g depth d := by
  have hlt := h.2 id n hitem hname
  refine ⟨by omega, ?_⟩
  intro child m hchild hm
  have hn := Graph.get?_of_item hitem
  have hsize := Graph.lt_size_of_get? (Graph.get?_of_item hchild)
  have hrank := rank_lt_rank hunfolds (Graph.nests_of_mem hn hname hd hchild hm) hsize
  omega

/-- All depths that the expansion does not use up are alike. -/
theorem renderUpTo_eq_of_fits (hunfolds : g.Unfolds) {depth depth' : Nat} (h : Fits g depth c)
    (h' : Fits g depth' c) : renderUpTo g depth c = renderUpTo g depth' c := by
  induction depth generalizing depth' c with
  | zero => exact absurd h.1 (Nat.lt_irrefl 0)
  | succ depth ih =>
      obtain ⟨depth', rfl⟩ : ∃ k, depth' = k + 1 := ⟨depth' - 1, by have := h'.1; omega⟩
      cases hitem : g.item c with
      | value v => rw [renderUpTo_of_value hitem, renderUpTo_of_value hitem]
      | node id n =>
          cases hname : n.name with
          | some name => rw [renderUpTo_of_name hitem hname, renderUpTo_of_name hitem hname]
          | none =>
              rw [renderUpTo_of_unnamed hitem hname, renderUpTo_of_unnamed hitem hname]
              apply expandWith_congr
              apply Shape.Alike.of_children
              intro d hd
              exact ⟨ih (h.of_child hunfolds hitem hname hd) (h'.of_child hunfolds hitem hname hd),
                rfl⟩

/-- The expression of a child, at any depth that is large enough. -/
theorem renderUpTo_eq_render (hunfolds : g.Unfolds) {depth : Nat} (h : g.size < depth)
    (c : Child) : renderUpTo g depth c = render g c :=
  renderUpTo_eq_of_fits hunfolds (fits_of_size_lt hunfolds h c)
    (fits_of_size_lt hunfolds (Nat.lt_succ_self g.size) c)

/-- Children that correspond have the same expression, or fail alike. -/
theorem render_congr (hunfolds : g.Unfolds) (hunfolds' : g'.Unfolds)
    (h : g.SimilarInline g' rel) (hc : g.Corresponds g' rel c c') :
    render g c = render g' c' := by
  rw [← renderUpTo_eq_render hunfolds (Nat.lt_succ_of_le (Nat.le_max_left g.size g'.size)),
    ← renderUpTo_eq_render hunfolds' (Nat.lt_succ_of_le (Nat.le_max_right g.size g'.size))]
  exact renderUpTo_congr h _ hc

end TypeExpr

/-! ## Declarations -/

namespace Declaration

variable {g g' : Graph} {rel : NodeId → NodeId → Prop} {n n' : Node}

theorem identifier_congr (role : Role) (h : n.Alike (g.Corresponds g' rel) n') :
    identifier role n = identifier role n' := by
  unfold identifier
  rw [h.name, h.offender_eq]

theorem superType_congr (h : g.Similar g' rel) {c c' : Child} (hc : g.Corresponds g' rel c c') :
    superType g c = superType g' c' := by
  rcases h.cases hc with ⟨v, hitem, hitem'⟩ | ⟨a, b, m, m', hitem, hitem', halike⟩
  · simp only [superType, hitem, hitem']
  · simp only [superType, hitem, hitem']
    exact identifier_congr .superType halike

section

variable (hunfolds : g.Unfolds) (hunfolds' : g'.Unfolds) (h : g.Similar g' rel)

include hunfolds hunfolds' h

/-- Children that correspond are written alike. -/
theorem sameText_of_corresponds {c c' : Child} (hc : g.Corresponds g' rel c c') :
    TypeExpr.SameText g g' (TypeExpr.render g) (TypeExpr.render g') c c' :=
  ⟨TypeExpr.render_congr hunfolds hunfolds' h.inline hc,
    TypeExpr.inlineComment?_congr h.inline hc⟩

theorem enumMember_congr {m m' : EnumMember} (hm : m.Alike (g.Corresponds g' rel) m') :
    enumMember g m = enumMember g' m' := by
  unfold enumMember
  rw [hm.key, TypeExpr.render_congr hunfolds hunfolds' h.inline hm.value]

theorem ofEnum_congr (o : Options) (hn : n.Alike (g.Corresponds g' rel) n')
    {ms ms' : List EnumMember}
    (hms : List.Forall₂ (EnumMember.Alike (g.Corresponds g' rel)) ms ms') :
    ofEnum g o n ms = ofEnum g' o n' ms' := by
  have hmembers : ms.mapM (enumMember g) = ms'.mapM (enumMember g') :=
    mapM_eq_of_forall₂ (hms.imp fun _ _ hm => enumMember_congr hunfolds hunfolds' h hm)
  unfold ofEnum
  rw [hmembers, identifier_congr .enum hn, hn.comment?_eq]

theorem ofInterface_congr (hn : n.Alike (g.Corresponds g' rel) n') {ps ps' : List Property}
    {cs cs' : List Child} (hps : List.Forall₂ (Property.Alike (g.Corresponds g' rel)) ps ps')
    (hcs : List.Forall₂ (g.Corresponds g' rel) cs cs') :
    ofInterface g n ps cs = ofInterface g' n' ps' cs' := by
  have hsupers : cs.mapM (superType g) = cs'.mapM (superType g') :=
    mapM_eq_of_forall₂ (hcs.imp fun _ _ hc => superType_congr h hc)
  have hbody : TypeExpr.renderInterfaceBody g ps = TypeExpr.renderInterfaceBody g' ps' := by
    unfold TypeExpr.renderInterfaceBody
    rw [TypeExpr.members_congr (hps.imp fun _ _ hp =>
      hp.mono fun _ _ hc => sameText_of_corresponds hunfolds hunfolds' h hc)]
  unfold ofInterface
  rw [hsupers, hbody, identifier_congr .interface hn, hn.comment?_eq]

theorem ofAlias_congr (hn : n.Alike (g.Corresponds g' rel) n') : ofAlias g n = ofAlias g' n' := by
  have hexpression : TypeExpr.expand g n.shape = TypeExpr.expand g' n'.shape :=
    TypeExpr.expandWith_congr (hn.shape.mono fun _ _ hc =>
      sameText_of_corresponds hunfolds hunfolds' h hc)
  unfold ofAlias
  rw [hexpression, identifier_congr .typeAlias hn, hn.comment?_eq]

/-- Nodes that are alike have the same declaration, or fail alike. -/
theorem ofNode_congr (o : Options) (hn : n.Alike (g.Corresponds g' rel) n') :
    ofNode g o n = ofNode g' o n' := by
  have halias := ofAlias_congr hunfolds hunfolds' h hn
  have hshape := hn.shape
  unfold ofNode
  generalize n.shape = s at hshape
  generalize n'.shape = s' at hshape
  cases hshape with
  | enum hms => exact ofEnum_congr hunfolds hunfolds' h o hn hms
  | interface hps hcs => exact ofInterface_congr hunfolds hunfolds' h hn hps hcs
  | leaf hleaf =>
      cases s with
      | enum | interface => contradiction
      | _ => exact halias
  | _ => exact halias

end

end Declaration

end SchemaDecls
