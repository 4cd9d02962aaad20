import SchemaDecls.Generate

/-!
# Sessions

A session keeps a graph, the options and what the passes have visited over any number of requests,
so that a name declared in one file is not declared again in the next. It can forget what has been
visited, remember nodes without visiting them, and add copies of nodes under new names to the graph.
A request that fails leaves visited what it had visited by then.
-/

namespace SchemaDecls

/-- What is reported of a node. -/
structure Description where
  diagnostic : String
  tag : String
  hasName : Bool
  hasComment : Bool
  /-- What an interface refers to; nothing is reported for other nodes. -/
  children : Option (List Child)

/-- Reports a node. -/
def Node.describe (n : Node) : Description where
  diagnostic := n.diagnostic
  tag := n.kind.tag
  hasName := n.hasName
  hasComment := n.hasComment
  children :=
    match n.shape with
    | .interface properties superTypes => some (interfaceChildren properties superTypes)
    | _ => none

/-- What can be asked of a session. -/
inductive Request where
  /-- The file of a root. -/
  | generate (root : Child)
  /-- Forget all that has been visited. -/
  | reset
  /-- New options. -/
  | setOptions (options : Options)
  /-- Forget what one pass has visited. -/
  | clear (which : Section)
  /-- Count a node as visited by a pass. -/
  | add (which : Section) (id : NodeId)
  /-- Whether a node counts as visited by a pass. -/
  | contains (which : Section) (id : NodeId)
  /-- The section of one pass, for a root of the given name. -/
  | declare (which : Section) (root : Child) (rootName : Option String)
  /-- The type expression of a child. -/
  | render (child : Child)
  /-- A copy of a node under another name. -/
  | rename (id : NodeId) (name : Option String)
  /-- The description of a node. -/
  | describe (id : NodeId)

/-- What a session answers. -/
inductive Reply where
  | done
  | text (s : String)
  | truth (b : Bool)
  | node (id : NodeId)
  | description (d : Description)

/-- A graph, options, and what the passes have visited. -/
structure Session where
  graph : Graph
  options : Options
  memo : Memo
deriving Inhabited

namespace Session

/-- A session in which nothing has been visited. -/
def start (graph : Graph) (options : Options) : Session := ⟨graph, options, .empty⟩

/-- A request that touches nothing but what has been visited. -/
def ofRun (s : Session) (run : Run String) : Except Failure Reply × Session :=
  (run.result.map .text, { s with memo := run.memo })

/-- A number that no node has is answered as the value that it denotes. -/
def withNode (s : Session) (id : NodeId) (f : Node → Except Failure Reply × Session) :
    Except Failure Reply × Session :=
  match s.graph.get? id with
  | some n => f n
  | none => (.error (.unsupported (.value .null)), s)

/-- Answers a request. -/
def step (s : Session) : Request → Except Failure Reply × Session
  | .generate root => s.ofRun (SchemaDecls.generate s.graph s.options root s.memo)
  | .reset => (.ok .done, { s with memo := .empty })
  | .setOptions options => (.ok .done, { s with options })
  | .clear which => (.ok .done, { s with memo := s.memo.set which .empty })
  | .add which id =>
      s.withNode id fun n =>
        (.ok .done, { s with memo := s.memo.set which ((s.memo.get which).insert id n) })
  | .contains which id => s.withNode id fun n => (.ok (.truth ((s.memo.get which).holds id n)), s)
  | .declare which root rootName =>
      s.ofRun ((runSection s.graph s.options rootName which root s.memo).andThen fun declared m =>
        ⟨.ok (sectionText declared), m⟩)
  | .render child => ((TypeExpr.render s.graph child).map .text, s)
  | .rename id name =>
      s.withNode id fun n =>
        (.ok (.node s.graph.size), { s with graph := s.graph.push (n.rename name) })
  | .describe id => s.withNode id fun n => (.ok (.description n.describe), s)

/-- Answers requests one after another; with each answer goes what has been visited by then. -/
def run (s : Session) : List Request → List (Except Failure Reply × Memo)
  | [] => []
  | request :: rest =>
      let (reply, next) := s.step request
      (reply, next.memo) :: next.run rest

end Session

end SchemaDecls
