import SchemaDecls.Proofs.ByName
import SchemaDecls.Proofs.Depth
import SchemaDecls.Proofs.Rendering
import SchemaDecls.Proofs.Runs

/-!
# Sharing does not show

A schema may share nodes, or have copies of them instead.  As long as there are no
cycles, its file is the same (`generate_eq_of_similar`).

A pass tells the two apart, for it does not go into a shared node again, while it
goes into a copy.  But the pass that knows nodes by their names alone cannot tell
them apart: on similar graphs it takes the same steps
(`Walk.writeByNameUpTo_congr`).  And on each of the two graphs it writes what the
pass itself writes, since there are no cycles (`Walk.write_eq_writeByNameUpTo`).

It is here that cycles are in the way: round a cycle of unnamed nodes the pass that
knows names alone would go without an end.
-/

namespace SchemaDecls

/-! ## Plans -/

/-- Plans that agree on the declaration, with children that are related. -/
structure Plan.Alike (rel : Child → Child → Prop) (plan plan' : Plan) : Prop where
  before : List.Forall₂ rel plan.before plan'.before
  declares : plan.declares = plan'.declares
  after : List.Forall₂ rel plan.after plan'.after

theorem interfaceChildren_alike {rel : Child → Child → Prop} {ps ps' : List Property}
    {cs cs' : List Child} (hps : List.Forall₂ (Property.Alike rel) ps ps')
    (hcs : List.Forall₂ rel cs cs') :
    List.Forall₂ rel (interfaceChildren ps cs) (interfaceChildren ps' cs') :=
  List.rel_append (List.rel_map (fun _ _ hp => hp.type) hps) hcs

/-- For nodes that are alike a pass has plans that are alike. -/
theorem Pass.plan_alike {rel : Child → Child → Prop} {n n' : Node} (o : Options)
    (rootName : Option String) (which : Section) (h : n.Alike rel n') :
    Option.Rel (Plan.Alike rel) ((ofSection o rootName which).plan n)
      ((ofSection o rootName which).plan n') := by
  obtain ⟨shape, name, comment⟩ := n
  obtain ⟨shape', name', comment'⟩ := n'
  obtain ⟨hname, -, hshape⟩ := h
  obtain rfl : name = name' := hname
  cases hshape with
  | leaf hleaf =>
      cases shape with
      | array | tuple | union | intersection | interface | enum => contradiction
      | bare => cases which <;> exact .none
      | _ => cases which <;> exact .some ⟨.nil, rfl, .nil⟩
  | array hc =>
      cases which with
      | types => exact .some ⟨.cons hc .nil, rfl, .nil⟩
      | _ => exact .some ⟨.nil, rfl, .cons hc .nil⟩
  | tuple hcs =>
      cases which with
      | interfaces => exact .some ⟨.nil, rfl, .nil⟩
      | _ => exact .some ⟨.nil, rfl, hcs⟩
  | union hcs | intersection hcs =>
      cases which with
      | enums => exact .some ⟨.nil, rfl, .nil⟩
      | _ => exact .some ⟨.nil, rfl, hcs⟩
  | interface hps hcs => cases which <;> exact .some ⟨.nil, rfl, interfaceChildren_alike hps hcs⟩
  | enum _ => cases which <;> exact .some ⟨.nil, rfl, .nil⟩

/-! ## Passes over similar graphs -/

namespace Walk

section

variable {rel : Child → Child → Prop} {write write' : Child → Visited → Written String}
  (hstep : ∀ c c' v, rel c c' → write c v = write' c' v)

include hstep

private theorem writeAll_congr {cs cs' : List Child} (h : List.Forall₂ rel cs cs') (v : Visited) :
    writeAll write cs v = writeAll write' cs' v := by
  induction h generalizing v with
  | nil => rfl
  | cons hc _ ih =>
      unfold writeAll
      rw [hstep _ _ v hc]
      unfold Written.andThen
      simp only [ih]

private theorem writePlan_congr {g g' : Graph} {o : Options} {n n' : Node} {plan plan' : Plan}
    (h : plan.Alike rel plan') (hown : Declaration.ofNode g o n = Declaration.ofNode g' o n')
    (v : Visited) : writePlan write g o n plan v = writePlan write' g' o n' plan' v := by
  unfold writePlan ownText
  simp only [writeAll_congr hstep h.before, writeAll_congr hstep h.after, h.declares, hown]

end

variable {g g' : Graph} {rel : NodeId → NodeId → Prop} {o : Options} {rootName : Option String}
  {which : Section} {c c' : Child} {depth : Nat}

/-- A pass that knows nodes by their names alone does the same on similar graphs. -/
theorem writeByNameUpTo_congr (hunfolds : g.Unfolds) (hunfolds' : g'.Unfolds)
    (h : g.Similar g' rel) (hc : g.Corresponds g' rel c c') (v : Visited) :
    writeByNameUpTo g o (Pass.ofSection o rootName which) depth c v =
      writeByNameUpTo g' o (Pass.ofSection o rootName which) depth c' v := by
  induction depth generalizing c c' v with
  | zero => rfl
  | succ depth ih =>
      rcases h.cases hc with ⟨x, hitem, hitem'⟩ | ⟨a, b, n, n', hitem, hitem', halike⟩
      · rw [writeByNameUpTo_of_value hitem, writeByNameUpTo_of_value hitem']
      · have hknows : v.knows n = v.knows n' := Visited.knows_congr halike.name
        cases hknown : v.knows n with
        | true =>
            rw [writeByNameUpTo_of_knows hitem hknown,
              writeByNameUpTo_of_knows hitem' (hknows ▸ hknown)]
        | false =>
            have hknown' : v.knows n' = false := hknows ▸ hknown
            have hplans := Pass.plan_alike o rootName which halike
            generalize hplan : (Pass.ofSection o rootName which).plan n = planned at hplans
            generalize hplan' : (Pass.ofSection o rootName which).plan n' = planned' at hplans
            cases hplans with
            | none =>
                rw [writeByNameUpTo_of_plan_eq_none hitem hknown hplan,
                  writeByNameUpTo_of_plan_eq_none hitem' hknown' hplan',
                  halike.offender_eq, Visited.unnumbered_insert_congr halike.name]
            | some hplans =>
                rw [writeByNameUpTo_of_plan_eq_some hitem hknown hplan,
                  writeByNameUpTo_of_plan_eq_some hitem' hknown' hplan',
                  Visited.unnumbered_insert_congr halike.name]
                apply writePlan_congr _ hplans
                  (Declaration.ofNode_congr hunfolds hunfolds' h o halike)
                intro d d' u hd
                exact ih hd u

/-- A pass that starts from nothing writes what it would write if it knew nodes by
their names alone. -/
theorem write_eq_writeByNameUpTo (hacyclic : g.Acyclic) (h : g.size < depth) :
    (write g o (Pass.ofSection o rootName which) c .empty).result =
      (writeByNameUpTo g o (Pass.ofSection o rootName which) depth c .empty).result := by
  have hbelow : g.Below depth c := by
    intro id n hitem
    have hrank := rank_lt_of_lt hacyclic (Graph.lt_size_of_get? (Graph.get?_of_item hitem))
    omega
  have hsettled : SettledBelow g (Pass.ofSection o rootName which) depth .empty := by
    intro id hid
    contradiction
  have hsame := writeUpTo_unnumbered hacyclic (Nat.le_refl depth) hbelow hsettled
  have hdepth : writeUpTo g o (Pass.ofSection o rootName which) depth c .empty =
      write g o (Pass.ofSection o rootName which) c .empty := by
    rw [writeUpTo_eq, write_eq,
      walkUpTo_eq_walk (Nat.lt_of_le_of_lt (g.fresh_le_size .empty) h)]
  have hresult := congrArg Written.result hsame
  rw [← hdepth]
  exact hresult

/-- On similar graphs without cycles a pass writes the same. -/
theorem write_congr (hacyclic : g.Acyclic) (hacyclic' : g'.Acyclic) (h : g.Similar g' rel)
    (hc : g.Corresponds g' rel c c') :
    (write g o (Pass.ofSection o rootName which) c .empty).result =
      (write g' o (Pass.ofSection o rootName which) c' .empty).result := by
  rw [write_eq_writeByNameUpTo hacyclic (Nat.lt_succ_of_le (Nat.le_max_left g.size g'.size)),
    write_eq_writeByNameUpTo hacyclic' (Nat.lt_succ_of_le (Nat.le_max_right g.size g'.size)),
    writeByNameUpTo_congr hacyclic.unfolds hacyclic'.unfolds h hc]

end Walk

/-! ## Files -/

/-- The file of a root, put together from the texts of the three passes. -/
theorem generate_result (g : Graph) (o : Options) (root : Child) (m : Memo) :
    (generate g o root m).result = (do
      let name ← rootName g root
      let types ← (Walk.write g o (Pass.ofSection o (some name) .types) root m.types).result
      let interfaces ←
        (Walk.write g o (Pass.ofSection o (some name) .interfaces) root m.interfaces).result
      let enums ← (Walk.write g o (Pass.ofSection o (some name) .enums) root m.enums).result
      let banner ← bannerText o
      return fileText banner [types, interfaces, enums]) := by
  unfold generate runPasses
  cases rootName g root with
  | error f => rfl
  | ok name =>
      simp only [Run.andThen_result, runSection, Memo.get, Memo.set, Walk.write_result, bind,
        Except.bind]
      generalize (Walk.walk g o (Pass.ofSection o (some name) .types) root m.types).result = types
      generalize (Walk.walk g o (Pass.ofSection o (some name) .interfaces) root
        m.interfaces).result = interfaces
      generalize (Walk.walk g o (Pass.ofSection o (some name) .enums) root m.enums).result = enums
      cases types with
      | error f => rfl
      | ok types =>
          cases interfaces with
          | error f => rfl
          | ok interfaces =>
              cases enums with
              | error f => rfl
              | ok enums => cases bannerText o <;> rfl

theorem rootName_congr {g g' : Graph} {rel : NodeId → NodeId → Prop} {root root' : Child}
    (h : g.Similar g' rel) (hroot : g.Corresponds g' rel root root') :
    rootName g root = rootName g' root' := by
  rcases h.cases hroot with ⟨x, hitem, hitem'⟩ | ⟨a, b, n, n', hitem, hitem', halike⟩
  · simp only [rootName, hitem, hitem']
  · simp only [rootName, hitem, hitem', halike.name, halike.offender_eq]

theorem generate_congr {g g' : Graph} {rel : NodeId → NodeId → Prop} {root root' : Child}
    (o : Options) (hacyclic : g.Acyclic) (hacyclic' : g'.Acyclic) (h : g.Similar g' rel)
    (hroot : g.Corresponds g' rel root root') :
    (generate g o root .empty).result = (generate g' o root' .empty).result := by
  have hpass : ∀ name which,
      (Walk.write g o (Pass.ofSection o (some name) which) root .empty).result =
        (Walk.write g' o (Pass.ofSection o (some name) which) root' .empty).result :=
    fun name which => Walk.write_congr hacyclic hacyclic' h hroot
  rw [generate_result, generate_result, rootName_congr h hroot]
  simp only [Memo.empty, hpass]

/-- Similar graphs without cycles have the same file, or fail alike.  In particular
the file does not show whether nodes are shared or copied. -/
theorem generate_eq_of_similar (o : Options) :
    (∀ (g g' : Graph) (rel : NodeId → NodeId → Prop) (root root' : Child), g.Acyclic →
      g'.Acyclic → g.Similar g' rel → g.Corresponds g' rel root root' →
      (generate g o root .empty).result = (generate g' o root' .empty).result) ∧
    ∀ (g g' : Graph) (source : NodeId → NodeId) (root : Child), g.Acyclic →
      g.IsCopied g' source →
      (generate g o (root.relabel source) .empty).result =
        (generate g' o root .empty).result := by
  constructor
  · intro g g' rel root root' hacyclic hacyclic' h hroot
    exact generate_congr o hacyclic hacyclic' h hroot
  · intro g g' source root hacyclic hcopied
    exact generate_congr o hacyclic (hcopied.acyclic hacyclic) hcopied.similar
      (hcopied.corresponds root)

/-- A basket of two fruits.  They are of one kind, whose two nodes are both called
label. -/
def sharedBasket : Graph := ⟨#[
  ⟨.interface [⟨some "first", .node 1, true, false, false⟩,
    ⟨some "second", .node 1, false, false, false⟩] [], some "basket", none⟩,
  ⟨.union [.node 2, .node 3], none, none⟩,
  ⟨.string, some "label", some "On a fruit."⟩,
  ⟨.number, some "label", none⟩]⟩

/-- The same basket as a tree. -/
def copiedBasket : Graph := ⟨#[
  ⟨.interface [⟨some "first", .node 1, true, false, false⟩,
    ⟨some "second", .node 4, false, false, false⟩] [], some "basket", none⟩,
  ⟨.union [.node 2, .node 3], none, none⟩,
  ⟨.string, some "label", some "On a fruit."⟩,
  ⟨.number, some "label", none⟩,
  ⟨.union [.node 5, .node 6], none, none⟩,
  ⟨.string, some "label", some "On a fruit."⟩,
  ⟨.number, some "label", none⟩]⟩

/-- The node of the shared basket that a node of the tree is a copy of.  No node is
the copy of a number that there is not. -/
def basketSource (id : NodeId) : NodeId := [0, 1, 2, 3, 1, 2, 3].getD id 4

/-- The basket and its tree have the same file, in which the label is a text: the
number of that name comes second, and so do the copies of both. -/
theorem sharedBasket_eq_copiedBasket :
    (sharedBasket.Acyclic ∧ copiedBasket.Acyclic ∧
        sharedBasket.IsCopied copiedBasket basketSource ∧
        sharedBasket.Similar copiedBasket (fun a b => a = basketSource b ∧ b < 7) ∧
        sharedBasket.Corresponds copiedBasket (fun a b => a = basketSource b ∧ b < 7)
          (.node 0) (.node 0)) ∧
      (generate sharedBasket .unbannered (.node 0) .empty).result =
        .ok ("/**\n * On a fruit.\n */\nexport type Label = string\n\n" ++
          "export interface Basket \x7b\nfirst: (Label | Label)\nsecond?: (Label | Label)\n\x7d\n") ∧
      (generate sharedBasket .unbannered (.node 0) .empty).result =
        (generate copiedBasket .unbannered (.node 0) .empty).result ∧
      (generate sharedBasket .unbannered (Child.relabel basketSource (.node 0)) .empty).result =
        (generate copiedBasket .unbannered (.node 0) .empty).result := by
  have hacyclic : sharedBasket.Acyclic := Graph.acyclic_of_forall_lt (by decide)
  have hcopied : sharedBasket.IsCopied copiedBasket basketSource := by
    intro id
    match id with
    | 0 | 1 | 2 | 3 | 4 | 5 | 6 => rfl
    | id + 7 => rfl
  have hacyclic' := hcopied.acyclic hacyclic
  have hroot := hcopied.corresponds (.node 0)
  obtain ⟨hsimilar, hcopies⟩ := generate_eq_of_similar .unbannered
  exact ⟨⟨hacyclic, hacyclic', hcopied, hcopied.similar, hroot⟩,
    eq_ok_of_toOption (by decide +kernel),
    hsimilar _ _ _ _ _ hacyclic hacyclic' hcopied.similar hroot,
    hcopies _ _ _ _ hacyclic hcopied⟩

end SchemaDecls
