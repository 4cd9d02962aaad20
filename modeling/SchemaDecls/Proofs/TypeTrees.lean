import SchemaDecls.TypeExpr

/-!
# Reading type expressions back

Arrays, tuples, unions and intersections are nested, and their expression is flat text.
Nothing is lost on the way but what the text does not tell: a union or an intersection with
one member is that member, and without members one is written as the other
(`Tree.normal`).

To see it the expression is read back, from left to right and one character at a time.
A reader has an expression at hand, or none, and a stack of those that it is in the midst
of.  Only one thing is not settled by the character alone: a square bracket goes with the
expression before it, if there is one, and opens a tuple otherwise (`Reader.bracket`).
Whatever is read before and after it, the text of a tree puts the tree at hand
(`Tree.Worded.gives`), so that trees with one text are alike.
-/

namespace SchemaDecls.TypeExpr

/-! ## Trees -/

/-- In which way members are put together. -/
inductive Joint where
  | tuple
  | union
  | intersection
deriving DecidableEq, Repr

namespace Joint

/-- The shape with these members. -/
def shape : Joint → List Child → Shape
  | tuple => .tuple
  | union => .union
  | intersection => .intersection

/-- The expressions of the members put together. -/
def text : Joint → List String → String
  | tuple => TypeExpr.tuple
  | union => setOperation unionSeparator
  | intersection => setOperation intersectionSeparator

end Joint

/-- What a type expression tells, down to expressions that are not taken apart. -/
inductive Tree where
  | leaf (text : String)
  | array (element : Tree)
  | joined (joint : Joint) (members : List Tree)
deriving Repr

/-- The members as a tree, a single member of a union or an intersection by itself.  No
difference is made between the two where there are no members. -/
def Joint.merge : Joint → List Tree → Tree
  | .tuple, ts => .joined .tuple ts
  | .union, [t] | .intersection, [t] => t
  | .intersection, [] => .joined .union []
  | joint, ts => .joined joint ts

namespace Tree

mutual

/-- The expression of a tree. -/
def text : Tree → String
  | leaf s => s
  | array t => t.text ++ "[]"
  | joined joint ts => joint.text (texts ts)

/-- The expressions of several trees. -/
def texts : List Tree → List String
  | [] => []
  | t :: ts => t.text :: texts ts

end

mutual

/-- The tree with every single member of a union or an intersection in its place. -/
def normal : Tree → Tree
  | leaf s => leaf s
  | array t => array t.normal
  | joined joint ts => joint.merge (normals ts)

/-- Several trees of this kind. -/
def normals : List Tree → List Tree
  | [] => []
  | t :: ts => t.normal :: normals ts

end

theorem texts_eq_map (ts : List Tree) : texts ts = ts.map text := by
  induction ts with
  | nil => rfl
  | cons t ts ih => rw [texts, ih, List.map_cons]

theorem normals_eq_map (ts : List Tree) : normals ts = ts.map normal := by
  induction ts with
  | nil => rfl
  | cons t ts ih => rw [normals, ih, List.map_cons]

theorem text_joined (joint : Joint) (ts : List Tree) :
    (joined joint ts).text = joint.text (ts.map text) := by
  rw [text, texts_eq_map]

theorem normal_joined (joint : Joint) (ts : List Tree) :
    (joined joint ts).normal = joint.merge (ts.map normal) := by
  rw [normal, normals_eq_map]

end Tree

/-- Members that are merged have the same expression. -/
theorem Joint.text_merge (joint : Joint) (ts : List Tree) :
    (joint.merge ts).text = joint.text (ts.map Tree.text) := by
  fun_cases Joint.merge joint ts with
  | case1 ts => exact Tree.text_joined .tuple ts
  | case2 t => rfl
  | case3 t => rfl
  | case4 => rfl
  | case5 => exact Tree.text_joined joint ts

/-- The character is none of those that put expressions together. -/
def isPlain (c : Char) : Bool := c ∉ [' ', '[', ']', '(', ')', ',', '|', '&']

/-- An expression that is not taken apart: there is one, and nothing in it is put together. -/
def IsWord (s : String) : Prop := s ≠ "" ∧ ∀ c ∈ s.toList, isPlain c = true

/-- Every leaf of the tree is a word. -/
inductive Tree.Worded : Tree → Prop
  | leaf {s : String} (h : IsWord s) : Worded (.leaf s)
  | array {t : Tree} (h : Worded t) : Worded (.array t)
  | joined {joint : Joint} {ts : List Tree} (h : ∀ t ∈ ts, Worded t) : Worded (.joined joint ts)

/-! ## Readers -/

/-- What a reader is in the midst of: the bracket behind an element, or members. -/
inductive Bracket where
  | array (element : Tree)
  | joint (joint : Joint)

/-- A bracket that is open, with the members in front of the last separator. -/
structure Frame where
  bracket : Bracket
  done : List Tree

/-- A reader on its way through an expression. -/
structure Reader where
  /-- The expression that has just been read. -/
  now : Option Tree
  /-- The brackets that are open, the inmost first. -/
  stack : List Frame

namespace Reader

/-- Opens a square bracket. -/
def bracket : Reader → Reader
  | ⟨some t, stack⟩ => ⟨none, ⟨.array t, []⟩ :: stack⟩
  | ⟨none, stack⟩ => ⟨none, ⟨.joint .tuple, []⟩ :: stack⟩

/-- Opens a round bracket.  Whether it is that of a union or of an intersection is told by the
separators. -/
def parenthesis (r : Reader) : Reader := ⟨none, ⟨.joint .union, []⟩ :: r.stack⟩

/-- Goes on to the next member. -/
def separate (joint : Joint) : Reader → Reader
  | ⟨now, frame :: stack⟩ => ⟨none, ⟨.joint joint, frame.done ++ now.toList⟩ :: stack⟩
  | ⟨now, []⟩ => ⟨now, []⟩

/-- Closes the inmost bracket. -/
def close : Reader → Reader
  | ⟨_, ⟨.array t, _⟩ :: stack⟩ => ⟨some (.array t), stack⟩
  | ⟨now, ⟨.joint joint, done⟩ :: stack⟩ => ⟨some (joint.merge (done ++ now.toList)), stack⟩
  | ⟨now, []⟩ => ⟨now, []⟩

/-- Adds a character to the word at hand. -/
def extend (c : Char) : Reader → Reader
  | ⟨none, stack⟩ => ⟨some (.leaf (String.singleton c)), stack⟩
  | ⟨some (.leaf s), stack⟩ => ⟨some (.leaf (s.push c)), stack⟩
  | r => r

/-- Reads a character. -/
def step (r : Reader) (c : Char) : Reader :=
  match c with
  | ' ' => r
  | '[' => r.bracket
  | '(' => r.parenthesis
  | ',' => r.separate .tuple
  | '|' => r.separate .union
  | '&' => r.separate .intersection
  | ']' | ')' => r.close
  | c => r.extend c

/-- Reads a text. -/
def read (r : Reader) (s : String) : Reader := s.toList.foldl step r

theorem read_append (r : Reader) (s t : String) : r.read (s ++ t) = (r.read s).read t := by
  rw [read, String.toList_append, List.foldl_append, read, read]

theorem step_of_isPlain (r : Reader) {c : Char} (h : isPlain c = true) :
    r.step c = r.extend c := by
  unfold step
  split
  case h_9 => rfl
  all_goals contradiction

/-- Further characters of a word are put behind those that have been read. -/
theorem foldl_step_leaf {cs : List Char} (h : ∀ c ∈ cs, isPlain c = true) (front : String)
    (stack : List Frame) :
    cs.foldl step ⟨some (.leaf front), stack⟩ =
      ⟨some (.leaf (front ++ String.ofList cs)), stack⟩ := by
  induction cs generalizing front with
  | nil => simp
  | cons c cs ih =>
      obtain ⟨hc, hcs⟩ := List.forall_mem_cons.mp h
      have happend : front.push c ++ String.ofList cs = front ++ String.ofList (c :: cs) := by
        rw [← String.toList_inj]
        simp
      rw [List.foldl_cons, step_of_isPlain _ hc, extend, ih hcs, happend]

/-- A word is put at hand as it is. -/
theorem read_word {s : String} (h : IsWord s) (stack : List Frame) :
    read ⟨none, stack⟩ s = ⟨some (.leaf s), stack⟩ := by
  obtain ⟨hne, hplain⟩ := h
  rw [read]
  cases hs : s.toList with
  | nil => exact absurd (String.toList_eq_nil_iff.mp hs) hne
  | cons c cs =>
      rw [hs] at hplain
      obtain ⟨hc, hcs⟩ := List.forall_mem_cons.mp hplain
      have hall : String.singleton c ++ String.ofList cs = s := by
        rw [← String.toList_inj, hs]
        simp
      rw [List.foldl_cons, step_of_isPlain _ hc, extend, foldl_step_leaf hcs, hall]

/-- The text puts the tree at hand, whatever is open around it. -/
def Gives (s : String) (t : Tree) : Prop :=
  ∀ stack, read ⟨none, stack⟩ s = ⟨some t, stack⟩

/-- Members are put behind those that are done.  The first separator settles what is made of
them, and if there is none the bracket does. -/
theorem close_read_members {joint : Joint} {separator : String}
    (hseparator : ∀ r : Reader, r.read separator = r.separate joint) {t : Tree} {ts : List Tree}
    (h : ∀ u ∈ t :: ts, Gives u.text u.normal) {bracket : Bracket}
    (hbracket : ts ≠ [] ∨ bracket = .joint joint) (done : List Tree) (stack : List Frame) :
    (read ⟨none, ⟨bracket, done⟩ :: stack⟩
      (separator.intercalate ((t :: ts).map Tree.text))).close =
      ⟨some (joint.merge (done ++ (t :: ts).map Tree.normal)), stack⟩ := by
  induction ts generalizing t bracket done with
  | nil =>
      obtain rfl : bracket = .joint joint := hbracket.resolve_left fun hne => hne rfl
      rw [List.map_singleton, String.intercalate_singleton, h t List.mem_cons_self]
      rfl
  | cons u ts ih =>
      obtain ⟨ht, hts⟩ := List.forall_mem_cons.mp h
      rw [List.map_cons, List.map_cons, String.intercalate_cons_cons, read_append, read_append,
        ht, hseparator, separate, ← List.map_cons, ih hts (.inr rfl)]
      simp

/-- Members in brackets put at hand what is made of them. -/
theorem gives_enclosed {joint : Joint} {separator first last : String} {bracket : Bracket}
    (hseparator : ∀ r : Reader, r.read separator = r.separate joint)
    (hfirst : ∀ stack, read ⟨none, stack⟩ first = ⟨none, ⟨bracket, []⟩ :: stack⟩)
    (hlast : ∀ r : Reader, r.read last = r.close) {t : Tree} {ts : List Tree}
    (h : ∀ u ∈ t :: ts, Gives u.text u.normal) (hbracket : ts ≠ [] ∨ bracket = .joint joint) :
    Gives (first ++ separator.intercalate ((t :: ts).map Tree.text) ++ last)
      (joint.merge ((t :: ts).map Tree.normal)) := by
  intro stack
  rw [read_append, read_append, hfirst, hlast, close_read_members hseparator h hbracket,
    List.nil_append]

theorem gives_tuple {ts : List Tree} (h : ∀ t ∈ ts, Gives t.text t.normal) :
    Gives (tuple (ts.map Tree.text)) (Joint.tuple.merge (ts.map Tree.normal)) := by
  cases ts with
  | nil => exact fun _ => rfl
  | cons t ts =>
      exact gives_enclosed (fun _ => rfl) (fun _ => rfl) (fun _ => rfl) h (.inr rfl)

theorem gives_setOperation {joint : Joint} {separator : String}
    (hseparator : ∀ r : Reader, r.read separator = r.separate joint)
    (hempty : joint.merge [] = .joined .union []) (hsingle : ∀ t, joint.merge [t] = t)
    {ts : List Tree} (h : ∀ t ∈ ts, Gives t.text t.normal) :
    Gives (setOperation separator (ts.map Tree.text)) (joint.merge (ts.map Tree.normal)) := by
  match ts with
  | [] =>
      have htext : setOperation separator [] = "()" := by simp [setOperation]
      rw [List.map_nil, List.map_nil, hempty, htext]
      exact fun _ => rfl
  | [t] =>
      rw [List.map_singleton, List.map_singleton, hsingle]
      exact h t List.mem_cons_self
  | t :: u :: ts =>
      exact gives_enclosed hseparator (fun _ => rfl) (fun _ => rfl) h (.inl (List.cons_ne_nil u ts))

end Reader

/-! ## The text of a tree is read back -/

namespace Tree

open Reader (Gives)

/-- Reading the text of a tree gives the tree in its normal form. -/
theorem Worded.gives {t : Tree} (h : t.Worded) : Gives t.text t.normal := by
  induction h with
  | leaf hword => exact Reader.read_word hword
  | @array t _ ih =>
      intro stack
      rw [text, Reader.read_append, ih]
      rfl
  | @joined joint ts _ ih =>
      rw [text_joined, normal_joined]
      cases joint with
      | tuple => exact Reader.gives_tuple ih
      | union => exact Reader.gives_setOperation (fun _ => rfl) rfl (fun _ => rfl) ih
      | intersection => exact Reader.gives_setOperation (fun _ => rfl) rfl (fun _ => rfl) ih

/-- A tree and its normal form have one text. -/
theorem Worded.text_normal {t : Tree} (h : t.Worded) : t.normal.text = t.text := by
  induction h with
  | leaf _ => rfl
  | @array t _ ih => rw [normal, text, ih, text]
  | @joined joint ts _ ih =>
      have hmembers : (ts.map normal).map text = ts.map text := by
        rw [List.map_map]
        exact List.map_congr_left ih
      rw [normal_joined, Joint.text_merge, hmembers, text_joined]

/-- Trees have the same text exactly if they have the same normal form. -/
theorem Worded.text_eq_iff {t u : Tree} (ht : t.Worded) (hu : u.Worded) :
    t.text = u.text ↔ t.normal = u.normal := by
  constructor
  · intro htext
    have hread : Reader.mk (some t.normal) [] = ⟨some u.normal, []⟩ := by
      rw [← ht.gives [], htext, hu.gives []]
    exact Option.some_inj.mp (congrArg Reader.now hread)
  · intro hnormal
    rw [← ht.text_normal, hnormal, hu.text_normal]

end Tree

end SchemaDecls.TypeExpr
