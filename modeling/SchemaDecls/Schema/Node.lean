import SchemaDecls.Value.Basic

/-!
# Nodes of a schema

A resolved schema is made of nodes, one for each type. A node has a shape, which says what type it
is and holds its children; it may carry a standalone name, under which the type is declared once and
referred to everywhere else, and a comment for that declaration.

Children are referred to by number, so that a node may be shared by several parents and may lie on a
cycle. A child may also be a plain value where a node was meant; such a child fails only when it is
looked at.
-/

namespace SchemaDecls

/-- The number of a node in its graph. -/
abbrev NodeId := Nat

/-- What stands in the place of a node: a node of the graph, or a plain value. -/
inductive Child where
  | node (id : NodeId)
  | value (v : Value)
deriving Inhabited

/-- A property of an interface. -/
structure Property where
  /-- The key, written as `null` if there is none. -/
  key : Option String
  type : Child
  required : Bool
  /-- The property stands for a family of keys and is no member of its own. -/
  pattern : Bool
  /-- The property is kept for the sake of its declarations and is no member. -/
  unreachable : Bool
deriving Inhabited

/-- A member of an enum. -/
structure EnumMember where
  key : Option String
  value : Child
deriving Inhabited

/-- What type a node is, and its children. -/
inductive Shape where
  | any
  | boolean
  | number
  | null
  | object
  | string
  /-- A constant. -/
  | literal (v : Value)
  /-- A type known by its name only. -/
  | reference (name : String)
  /-- A type expression given as text. -/
  | custom (expression : String)
  | array (element : Child)
  | tuple (members : List Child)
  | union (members : List Child)
  | intersection (members : List Child)
  | interface (properties : List Property) (superTypes : List Child)
  | enum (members : List EnumMember)
  /-- A node that is of no type. -/
  | bare
deriving Inhabited

/-- The kinds of nodes: shapes without their children. -/
inductive Kind where
  | any
  | boolean
  | number
  | null
  | object
  | string
  | literal
  | reference
  | custom
  | array
  | tuple
  | union
  | intersection
  | interface
  | enum
  | bare
deriving DecidableEq, Repr, Inhabited

/-- The kind of a shape. -/
def Shape.kind : Shape → Kind
  | .any => .any
  | .boolean => .boolean
  | .number => .number
  | .null => .null
  | .object => .object
  | .string => .string
  | .literal _ => .literal
  | .reference _ => .reference
  | .custom _ => .custom
  | .array _ => .array
  | .tuple _ => .tuple
  | .union _ => .union
  | .intersection _ => .intersection
  | .interface _ _ => .interface
  | .enum _ => .enum
  | .bare => .bare

namespace Kind

/-- The tag that tells kinds apart in a description. A bare node has the tag of `any`. -/
def tag : Kind → String
  | .any => "ANY"
  | .boolean => "BOOLEAN"
  | .number => "NUMBER"
  | .null => "NULL"
  | .object => "OBJECT"
  | .string => "STRING"
  | .literal => "LITERAL"
  | .reference => "REFERENCE"
  | .custom => "CUSTOM_TYPE"
  | .array => "ARRAY"
  | .tuple => "TUPLE"
  | .union => "UNION"
  | .intersection => "INTERSECTION"
  | .interface => "INTERFACE"
  | .enum => "ENUM"
  | .bare => "ANY"

/-- What messages call a node of this kind. -/
def label : Kind → String
  | .any => "AnyNode"
  | .boolean => "BooleanNode"
  | .number => "NumberNode"
  | .null => "NullNode"
  | .object => "ObjectNode"
  | .string => "StringNode"
  | .literal => "LiteralNode"
  | .reference => "ReferenceNode"
  | .custom => "CustomTypeNode"
  | .array => "ArrayNode"
  | .tuple => "TupleNode"
  | .union => "UnionNode"
  | .intersection => "IntersectionNode"
  | .interface => "InterfaceNode"
  | .enum => "EnumNode"
  | .bare => "SchemaNode"

end Kind

/-- A node of a schema. -/
structure Node where
  shape : Shape
  /-- The standalone name. The empty text is a name too. -/
  name : Option String
  comment : Option String
deriving Inhabited

namespace Node

/-- The kind of a node. -/
def kind (n : Node) : Kind := n.shape.kind

/-- The node has a standalone name. -/
def hasName (n : Node) : Bool := n.name.isSome

/-- The comment of a node, if it has one that is not empty. -/
def comment? (n : Node) : Option String := n.comment.filter (· != "")

/-- The node carries a comment that is not empty. -/
def hasComment (n : Node) : Bool := n.comment?.isSome

/-- The same node under another name, or under none. -/
def rename (n : Node) (name : Option String) : Node := { n with name }

@[simp] theorem shape_rename (n : Node) (name : Option String) :
    (n.rename name).shape = n.shape := rfl

@[simp] theorem name_rename (n : Node) (name : Option String) : (n.rename name).name = name := rfl

@[simp] theorem comment_rename (n : Node) (name : Option String) :
    (n.rename name).comment = n.comment := rfl

end Node

/-- What an interface refers to: the types of its properties, then its super-types. -/
def interfaceChildren (properties : List Property) (superTypes : List Child) : List Child :=
  properties.map Property.type ++ superTypes

end SchemaDecls
