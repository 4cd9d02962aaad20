import SchemaDecls.Walk

/-!
# The three passes

Aliases, interfaces and enums are collected by a pass each, and no two of them take the same ways
through a graph:

| | array | tuple | union, intersection | interface | enum |
|---|---|---|---|---|---|
| `types` | element, then itself | itself, then members | itself, then members | children | |
| `interfaces` | element | | members | itself, then children | |
| `enums` | element | members | | children | itself |

Here "itself" is a declaration. An alias is declared if the node has a name, and `types` does the
same for the nodes without children, which the table leaves out. An enum is always declared, and
fails without a name. An interface is declared if it has a name and either bears the root's name or
all interfaces are to be declared. No pass has a plan for a bare node.
-/

namespace SchemaDecls.Pass

/-- The pass that declares aliases. -/
def types : Pass where
  plan n :=
    match n.shape with
    | .array element => some ⟨[element], n.hasName, []⟩
    | .tuple members | .union members | .intersection members => some ⟨[], n.hasName, members⟩
    | .interface properties superTypes => some ⟨[], false, interfaceChildren properties superTypes⟩
    | .enum _ => some ⟨[], false, []⟩
    | .bare => none
    | _ => some ⟨[], n.hasName, []⟩

/-- The interface is declared: it bears the root's name, or all named interfaces are declared. -/
def declaresInterface (o : Options) (rootName : Option String) (n : Node) : Bool :=
  n.hasName && (n.name == rootName || o.declareReferenced.truthy)

/-- The pass that declares interfaces, started at a root of this name. -/
def interfaces (o : Options) (rootName : Option String) : Pass where
  plan n :=
    match n.shape with
    | .array element => some ⟨[], false, [element]⟩
    | .union members | .intersection members => some ⟨[], false, members⟩
    | .interface properties superTypes =>
        some ⟨[], declaresInterface o rootName n, interfaceChildren properties superTypes⟩
    | .bare => none
    | _ => some ⟨[], false, []⟩

/-- The pass that declares enums. -/
def enums : Pass where
  plan n :=
    match n.shape with
    | .array element => some ⟨[], false, [element]⟩
    | .tuple members => some ⟨[], false, members⟩
    | .interface properties superTypes => some ⟨[], false, interfaceChildren properties superTypes⟩
    | .enum _ => some ⟨[], true, []⟩
    | .bare => none
    | _ => some ⟨[], false, []⟩

/-- The pass that writes a section. -/
def ofSection (o : Options) (rootName : Option String) : Section → Pass
  | .types => types
  | .interfaces => interfaces o rootName
  | .enums => enums

end SchemaDecls.Pass
