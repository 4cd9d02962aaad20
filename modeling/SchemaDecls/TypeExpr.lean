import SchemaDecls.Comment
import SchemaDecls.Failure
import SchemaDecls.Identifier
import SchemaDecls.PropertyKey
import SchemaDecls.Schema.Graph
import SchemaDecls.Value.Literal

/-!
# Type expressions

A node is written inline as a type expression. A named node is written as its identifier, whatever
it is, and trusted to be declared elsewhere. An unnamed node is expanded in place: its children are
written in their order and put together as its shape asks. Unnamed enums and bare nodes have no
expression, and neither has a value.

`expandWith` is one level of the expansion, with the expressions of the children left open, and
`renderUpTo` ties the knot to a given depth. Expansion only ever descends through unnamed nodes.
Where no cycle is made of them alone, no node occurs twice on the way down, so a depth of one more
than there are nodes is never used up; that depth is what `render` takes.
-/

namespace SchemaDecls.TypeExpr

/-! ## Putting expressions together -/

/-- The members with a separator between them, in parentheses. A single member stands bare. -/
def setOperation (separator : String) : List String → String
  | [member] => member
  | members => "(" ++ separator.intercalate members ++ ")"

/-- What stands between the members of a union. -/
def unionSeparator : String := " | "

/-- What stands between the members of an intersection. -/
def intersectionSeparator : String := " & "

/-- A tuple of element types. -/
def tuple (members : List String) : String := "[" ++ ", ".intercalate members ++ "]"

/-- A member of an interface: its comment above, then the key and the type. -/
structure Member where
  comment : Option String
  key : Option String
  required : Bool
  type : String
deriving DecidableEq, Repr

/-- The text of a member. -/
def Member.text (m : Member) : String :=
  (match m.comment with
    | some comment => Comment.block comment ++ "\n"
    | none => "") ++
  PropertyKey.render m.key ++ (if m.required then "" else "?") ++ ": " ++ m.type

/-- The member list of an interface, in braces. -/
def interfaceBody (members : List Member) : String :=
  "\x7b\n" ++ "\n".intercalate (members.map Member.text) ++ "\n\x7d"

/-! ## Expansion -/

/-- The property is a member of its interface. -/
def isMember (p : Property) : Bool := !p.pattern && !p.unreachable

/-- The comment that is written inside an interface: that of an unnamed node. -/
def inlineComment? (g : Graph) (c : Child) : Option String :=
  match g.item c with
  | .node _ n => if n.hasName then none else n.comment?
  | .value _ => none

section

variable (g : Graph) (childText : Child → Except Failure String)

/-- The member that a property becomes. -/
def member (p : Property) : Except Failure Member := do
  let type ← childText p.type
  return ⟨inlineComment? g p.type, p.key, p.required, type⟩

/-- The members of an interface, in the order of its properties. -/
def members (properties : List Property) : Except Failure (List Member) :=
  (properties.filter isMember).mapM (member g childText)

/-- The expression of a shape, given how its children are written. -/
def expandWith : Shape → Except Failure String
  | .any => .ok "any"
  | .boolean => .ok "boolean"
  | .number => .ok "number"
  | .null => .ok "null"
  | .object => .ok "object"
  | .string => .ok "string"
  | .literal v => .ok (String.ofList v.literal)
  | .reference name => .ok name
  | .custom expression => .ok expression
  | .array element => (childText element).map (· ++ "[]")
  | .tuple children => (children.mapM childText).map tuple
  | .union children => (children.mapM childText).map (setOperation unionSeparator)
  | .intersection children => (children.mapM childText).map (setOperation intersectionSeparator)
  | .interface properties _ => (members g childText properties).map interfaceBody
  | .enum _ => .error (.unsupported (.node .enum none))
  | .bare => .error (.unsupported (.node .bare none))

end

/-- The expression of a child, expanded to a depth of so many nodes. -/
def renderUpTo (g : Graph) : Nat → Child → Except Failure String
  | 0, _ => .error .endlessNesting
  | depth + 1, c =>
      match g.item c with
      | .value v => .error (.unsupported (.value v))
      | .node _ n =>
          match n.name with
          | some name => .ok (Identifier.ofName name)
          | none => expandWith g (renderUpTo g depth) n.shape

/-! ## Expressions of a graph -/

/-- The depth to which the nodes of a graph are expanded. -/
def depthOf (g : Graph) : Nat := g.size + 1

/-- The type expression of a child. -/
def render (g : Graph) (c : Child) : Except Failure String := renderUpTo g (depthOf g) c

/-- The type expression of a shape, the name of the node that has it left aside. -/
def expand (g : Graph) (s : Shape) : Except Failure String := expandWith g (render g) s

/-- The member list of an interface with these properties, in braces. -/
def renderInterfaceBody (g : Graph) (properties : List Property) : Except Failure String :=
  (members g (render g) properties).map interfaceBody

/--
The members of a shape put together, whatever the name of the node that has it. A union joins them
as a union, an intersection and a tuple as an intersection; other shapes have no members.
-/
def renderSetOperation (g : Graph) : Shape → Except Failure String
  | .union children => (children.mapM (render g)).map (setOperation unionSeparator)
  | .intersection children | .tuple children =>
      (children.mapM (render g)).map (setOperation intersectionSeparator)
  | s => .error (.unsupported (.node s.kind none))

/-- A named node is written as its identifier. -/
theorem renderUpTo_of_name {g : Graph} {depth : Nat} {c : Child} {id : NodeId} {n : Node}
    {name : String} (h : g.item c = .node id n) (hn : n.name = some name) :
    renderUpTo g (depth + 1) c = .ok (Identifier.ofName name) := by
  simp [renderUpTo, h, hn]

/-- An unnamed node is expanded. -/
theorem renderUpTo_of_unnamed {g : Graph} {depth : Nat} {c : Child} {id : NodeId} {n : Node}
    (h : g.item c = .node id n) (hn : n.name = none) :
    renderUpTo g (depth + 1) c = expandWith g (renderUpTo g depth) n.shape := by
  simp [renderUpTo, h, hn]

/-- A value has no expression. -/
theorem renderUpTo_of_value {g : Graph} {depth : Nat} {c : Child} {v : Value}
    (h : g.item c = .value v) :
    renderUpTo g (depth + 1) c = .error (.unsupported (.value v)) := by
  simp [renderUpTo, h]

end SchemaDecls.TypeExpr
