import SchemaDecls.Schema.Node
import SchemaDecls.Value.Diagnostic

/-!
# Failures

The causes for which nothing is written, and the message of each. A message shows what it is about:
a node by its kind and name (its children are left out, for the graph may be cyclic), a value as
`Value.diagnostic` writes it. Failures do not say where in a graph the node stands.

What a runtime fails at for limits of its own, such as calls that are too deep or integers that have
too many digits to be turned into text, is no failure here.
-/

namespace SchemaDecls

/-- What a failure is about. -/
inductive Offender where
  | node (kind : Kind) (name : Option String)
  | value (v : Value)

/-- The part that a node plays where it needs a standalone name. -/
inductive Role where
  | root
  | typeAlias
  | interface
  | enum
  | superType
deriving DecidableEq, Repr

/-- The cause of a failure. -/
inductive Failure where
  /-- Something that is no node of a known kind is visited or rendered. -/
  | unsupported (offender : Offender)
  /-- A node that must have a standalone name has none. -/
  | unnamed (role : Role) (offender : Offender)
  /-- An interface extends a value that is no node. -/
  | superTypeNotNode (v : Value)
  /-- The banner is to be written and is no text. -/
  | bannerNotText (v : Value)
  /-- Unnamed nodes nest without an end. Nesting that ends is no failure, however deep it is: the
  limit that a runtime sets to calls within calls is left out. -/
  | endlessNesting

/-- The node as failures show it. -/
def Node.offender (n : Node) : Offender := .node n.kind n.name

/-- The text of what a failure is about. -/
def Offender.diagnostic : Offender → String
  | .node kind none => kind.label ++ "()"
  | .node kind (some name) =>
      kind.label ++ "(standalone_name=" ++ (Value.str name).diagnostic ++ ")"
  | .value v => v.diagnostic

/-- The text of a node in messages. -/
def Node.diagnostic (n : Node) : String := n.offender.diagnostic

/-- What messages call a role. -/
def Role.label : Role → String
  | .root => "Root node"
  | .typeAlias => "Type alias"
  | .interface => "Interface"
  | .enum => "Enum"
  | .superType => "Super-type"

/-- The message of a failure. -/
def Failure.message : Failure → String
  | .unsupported offender => "Unsupported AST node: " ++ offender.diagnostic
  | .unnamed role offender =>
      role.label ++ " must have a standalone name: " ++ offender.diagnostic
  | .superTypeNotNode v =>
      "'" ++ v.typeName ++ "' object has no attribute 'standalone_name'"
  | .bannerNotText v => "sequence item 0: expected str instance, " ++ v.typeName ++ " found"
  | .endlessNesting => "unnamed nodes nest without an end"

end SchemaDecls
