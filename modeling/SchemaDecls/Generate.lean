import SchemaDecls.Pass

/-!
# Files of declarations

A file is written for a root, which must be a node with a standalone name. The three passes run from
there, one after another, each going on from what it has visited before. The first failure ends the
run; what was visited until then stays visited.

The file has the banner and the sections of the three passes, those that are not empty, with an
empty line between them and one line break at the end. Sections lose the line breaks at their end,
while the banner is kept as it is. A banner that counts as true and is no text fails only when the
passes are over.
-/

namespace SchemaDecls

/-! ## The text of a file -/

/-- The text of a section: its declarations, each on new lines. -/
def sectionText (declared : List Declared) : String :=
  "\n".intercalate (declared.map Declared.text)

/-- The text without the line breaks at its end. -/
def dropFinalBreaks (s : String) : String :=
  String.ofList (s.toList.reverse.dropWhile (· == '\n')).reverse

/-- The text of a file with a banner and sections; empty ones leave no trace. -/
def fileText (banner : String) (sections : List String) : String :=
  "\n\n".intercalate ((banner :: sections.map dropFinalBreaks).filter (· != "")) ++ "\n"

/-- The banner that is written. -/
def bannerText (o : Options) : Except Failure String :=
  match o.banner with
  | .str banner => .ok banner
  | v => if v.truthy then .error (.bannerNotText v) else .ok ""

/-! ## Runs of the passes -/

/-- The declarations of a run, by section. -/
structure Declarations where
  types : List Declared
  interfaces : List Declared
  enums : List Declared
deriving DecidableEq, Repr

/-- The texts of the sections in the order in which they are written. -/
def Declarations.texts (d : Declarations) : List String :=
  [sectionText d.types, sectionText d.interfaces, sectionText d.enums]

/-- How a run of several passes ended. -/
structure Run (α : Type) where
  result : Except Failure α
  memo : Memo

/-- Runs the pass of one section, from what it has visited before. -/
def runSection (g : Graph) (o : Options) (rootName : Option String) (which : Section) (root : Child)
    (m : Memo) : Run (List Declared) :=
  let outcome := Walk.walk g o (Pass.ofSection o rootName which) root (m.get which)
  ⟨outcome.result, m.set which outcome.visited⟩

/-- Goes on after a run, unless it failed. -/
def Run.andThen {α β : Type} (first : Run α) (next : α → Memo → Run β) : Run β :=
  match first.result with
  | .error f => ⟨.error f, first.memo⟩
  | .ok a => next a first.memo

/-- The standalone name of a root, which must be a node that has one. -/
def rootName (g : Graph) (root : Child) : Except Failure String :=
  match g.item root with
  | .value v => .error (.unsupported (.value v))
  | .node _ n =>
      match n.name with
      | some name => .ok name
      | none => .error (.unnamed .root n.offender)

/-- Runs the three passes from a root on. -/
def runPasses (g : Graph) (o : Options) (root : Child) (m : Memo) : Run Declarations :=
  match rootName g root with
  | .error f => ⟨.error f, m⟩
  | .ok name =>
      (runSection g o (some name) .types root m).andThen fun types m =>
        (runSection g o (some name) .interfaces root m).andThen fun interfaces m =>
          (runSection g o (some name) .enums root m).andThen fun enums m =>
            ⟨.ok ⟨types, interfaces, enums⟩, m⟩

/-- The file of a root. -/
def generate (g : Graph) (o : Options) (root : Child) (m : Memo) : Run String :=
  (runPasses g o root m).andThen fun declarations m =>
    ⟨(bannerText o).map fun banner => fileText banner declarations.texts, m⟩

example :
    (generate ⟨#[⟨.array (.node 1), some "names", none⟩, ⟨.string, some "name", some "One."⟩]⟩
      (Options.default.set .banner .null) (.node 0) .empty).result.toOption =
      some "/**\n * One.\n */\nexport type Name = string\nexport type Names = Name[]\n" := by
  decide +kernel

end SchemaDecls
