import SchemaDecls.Declaration

/-!
# Declarations that succeed

What must hold of a node for its declaration to be written, and of which parts
the text then consists: one inversion for each kind of declaration.  Two
consequences are used over and over (`Declaration.ofNode_eq_ok`).  Whatever is
declared has a name, and its text opens with a character that is no line break,
so that a declaration is never empty and never vanishes when line breaks are
stripped or empty pieces dropped.
-/

namespace SchemaDecls

theorem bind_eq_ok {α β : Type} {x : Except Failure α} {f : α → Except Failure β} {b : β}
    (h : (x >>= f) = .ok b) : ∃ a, x = .ok a ∧ f a = .ok b := by
  cases x with
  | error e => contradiction
  | ok a => exact ⟨a, rfl, h⟩

/-! ## Texts that open visibly -/

/-- The text opens with a character that is no line break. -/
def OpensVisibly (text : String) : Prop :=
  ∃ c rest, text.toList = c :: rest ∧ c ≠ '\n'

namespace OpensVisibly

theorem ne_empty {text : String} (h : OpensVisibly text) : text ≠ "" := by
  obtain ⟨c, rest, htext, -⟩ := h
  rintro rfl
  contradiction

theorem append {text : String} (h : OpensVisibly text) (more : String) :
    OpensVisibly (text ++ more) := by
  obtain ⟨c, rest, htext, hc⟩ := h
  exact ⟨c, rest ++ more.toList, by simp [htext], hc⟩

end OpensVisibly

namespace Declaration

theorem opensVisibly_commented (comment : Option String) {declaration : String}
    (h : OpensVisibly declaration) : OpensVisibly (commented comment declaration) := by
  cases comment with
  | none => exact h
  | some comment =>
      have hblock : OpensVisibly "/**\n" := ⟨'/', ['*', '*', '\n'], rfl, by decide⟩
      unfold commented Comment.block
      exact (((hblock.append _).append _).append _).append _

/-- Every declaration is an export. -/
theorem opensVisibly_export (rest : String) : OpensVisibly ("export " ++ rest) := by
  have hexport : OpensVisibly "export " := ⟨'e', ['x', 'p', 'o', 'r', 't', ' '], rfl, by decide⟩
  exact hexport.append rest

theorem opensVisibly_enumText (isConst : Bool) (name : String)
    (members : List (String × String)) : OpensVisibly (enumText isConst name members) := by
  unfold enumText
  simp only [String.append_assoc]
  exact opensVisibly_export _

theorem opensVisibly_interfaceText (name : String) (superTypes : List String) (body : String) :
    OpensVisibly (interfaceText name superTypes body) := by
  have hsplit : "export interface " = "export " ++ "interface " := rfl
  unfold interfaceText
  rw [hsplit]
  simp only [String.append_assoc]
  exact opensVisibly_export _

theorem opensVisibly_aliasText (name expression : String) :
    OpensVisibly (aliasText name expression) := by
  have hsplit : "export type " = "export " ++ "type " := rfl
  unfold aliasText
  rw [hsplit]
  simp only [String.append_assoc]
  exact opensVisibly_export _

/-! ## Inversions -/

variable {g : Graph} {o : Options} {n : Node} {text : String}

theorem identifier_eq_ok {role : Role} {ident : String} (h : identifier role n = .ok ident) :
    ∃ name, n.name = some name ∧ ident = Identifier.ofName name := by
  unfold identifier at h
  cases hname : n.name with
  | none => simp [hname] at h
  | some name =>
      simp only [hname] at h
      exact ⟨name, rfl, (Except.ok.inj h).symm⟩

theorem ofEnum_eq_ok {members : List EnumMember} (h : ofEnum g o n members = .ok text) :
    ∃ name written, n.name = some name ∧ members.mapM (enumMember g) = .ok written ∧
      text = commented n.comment?
        (enumText o.constEnums.truthy (Identifier.ofName name) written) := by
  obtain ⟨written, hwritten, h⟩ := bind_eq_ok h
  obtain ⟨ident, hident, h⟩ := bind_eq_ok h
  obtain ⟨name, hname, rfl⟩ := identifier_eq_ok hident
  exact ⟨name, written, hname, hwritten, (Except.ok.inj h).symm⟩

theorem ofInterface_eq_ok {properties : List Property} {superTypes : List Child}
    (h : ofInterface g n properties superTypes = .ok text) :
    ∃ name supers body, n.name = some name ∧ superTypes.mapM (superType g) = .ok supers ∧
      TypeExpr.renderInterfaceBody g properties = .ok body ∧
      text = commented n.comment? (interfaceText (Identifier.ofName name) supers body) := by
  obtain ⟨supers, hsupers, h⟩ := bind_eq_ok h
  obtain ⟨ident, hident, h⟩ := bind_eq_ok h
  obtain ⟨body, hbody, h⟩ := bind_eq_ok h
  obtain ⟨name, hname, rfl⟩ := identifier_eq_ok hident
  exact ⟨name, supers, body, hname, hsupers, hbody, (Except.ok.inj h).symm⟩

theorem ofAlias_eq_ok (h : ofAlias g n = .ok text) :
    ∃ name expression, n.name = some name ∧ TypeExpr.expand g n.shape = .ok expression ∧
      text = commented n.comment? (aliasText (Identifier.ofName name) expression) := by
  obtain ⟨ident, hident, h⟩ := bind_eq_ok h
  obtain ⟨expression, hexpression, h⟩ := bind_eq_ok h
  obtain ⟨name, hname, rfl⟩ := identifier_eq_ok hident
  exact ⟨name, expression, hname, hexpression, (Except.ok.inj h).symm⟩

/-- Whatever is declared has a name, and its text is visible from the start. -/
theorem ofNode_eq_ok (h : ofNode g o n = .ok text) :
    (∃ name, n.name = some name) ∧ OpensVisibly text := by
  unfold ofNode at h
  split at h
  · obtain ⟨name, written, hname, -, rfl⟩ := ofEnum_eq_ok h
    exact ⟨⟨name, hname⟩, opensVisibly_commented _ (opensVisibly_enumText _ _ _)⟩
  · obtain ⟨name, supers, body, hname, -, -, rfl⟩ := ofInterface_eq_ok h
    exact ⟨⟨name, hname⟩, opensVisibly_commented _ (opensVisibly_interfaceText _ _ _)⟩
  · obtain ⟨name, expression, hname, -, rfl⟩ := ofAlias_eq_ok h
    exact ⟨⟨name, hname⟩, opensVisibly_commented _ (opensVisibly_aliasText _ _)⟩

end Declaration

end SchemaDecls
