import SchemaDecls.Options
import SchemaDecls.TypeExpr

/-!
# Declarations

A named node is declared by its shape: an interface with the interfaces that it extends, an enum
with its members, and any other node as an alias of its type expression. The comment of the node
stands above. The text of a declaration has no line break at its end, unless the text of a
reference or of a custom type brings one.

Where several things are wrong the first one counts, in this order. In an enum, a member without
an expression comes before the missing name of the enum itself. In an interface, super-types that
are no nodes or have no names come first, then its own missing name, then its properties.
-/

namespace SchemaDecls.Declaration

/-! ## The texts of declarations -/

/-- A declaration under the block of its comment. -/
def commented (comment : Option String) (declaration : String) : String :=
  match comment with
  | some comment => Comment.block comment ++ "\n" ++ declaration
  | none => declaration

/-- The declaration of an enum with these keys and member expressions. -/
def enumText (isConst : Bool) (name : String) (members : List (String × String)) : String :=
  "export " ++ (if isConst then "const " else "") ++ "enum " ++ name ++ " \x7b\n" ++
    ",\n".intercalate (members.map fun m => m.1 ++ " = " ++ m.2) ++ "\n\x7d"

/-- The declaration of an interface that extends others. -/
def interfaceText (name : String) (superTypes : List String) (body : String) : String :=
  "export interface " ++ name ++ " " ++
    (if superTypes.isEmpty then "" else "extends " ++ ", ".intercalate superTypes ++ " ") ++ body

/-- The declaration of an alias. -/
def aliasText (name : String) (expression : String) : String :=
  "export type " ++ name ++ " = " ++ expression

/-! ## The declarations of nodes -/

/-- The identifier under which a node is declared. -/
def identifier (role : Role) (n : Node) : Except Failure String :=
  match n.name with
  | some name => .ok (Identifier.ofName name)
  | none => .error (.unnamed role n.offender)

/-- The identifier of a super-type. -/
def superType (g : Graph) (c : Child) : Except Failure String :=
  match g.item c with
  | .node _ n => identifier .superType n
  | .value v => .error (.superTypeNotNode v)

/-- How the key of an enum member is written: as it is, or `None` if it is missing. -/
def enumKey : Option String → String
  | some key => key
  | none => "None"

/-- The key and the expression of an enum member. -/
def enumMember (g : Graph) (m : EnumMember) : Except Failure (String × String) :=
  (TypeExpr.render g m.value).map fun expression => (enumKey m.key, expression)

/-- The declaration of a node as an enum with these members. -/
def ofEnum (g : Graph) (o : Options) (n : Node) (members : List EnumMember) :
    Except Failure String := do
  let members ← members.mapM (enumMember g)
  let name ← identifier .enum n
  return commented n.comment? (enumText o.constEnums.truthy name members)

/-- The declaration of a node as an interface with these properties and super-types. -/
def ofInterface (g : Graph) (n : Node) (properties : List Property) (superTypes : List Child) :
    Except Failure String := do
  let superTypes ← superTypes.mapM (superType g)
  let name ← identifier .interface n
  let body ← TypeExpr.renderInterfaceBody g properties
  return commented n.comment? (interfaceText name superTypes body)

/--
The declaration of a node as an alias.

What it stands for is the expansion of the node. The node's own name is left aside, for otherwise
the alias would refer to itself.
-/
def ofAlias (g : Graph) (n : Node) : Except Failure String := do
  let name ← identifier .typeAlias n
  let expression ← TypeExpr.expand g n.shape
  return commented n.comment? (aliasText name expression)

/-- The declaration that the shape of a node asks for. -/
def ofNode (g : Graph) (o : Options) (n : Node) : Except Failure String :=
  match n.shape with
  | .enum members => ofEnum g o n members
  | .interface properties superTypes => ofInterface g n properties superTypes
  | _ => ofAlias g n

end SchemaDecls.Declaration
