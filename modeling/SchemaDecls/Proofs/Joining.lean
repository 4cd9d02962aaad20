import SchemaDecls.Generate
import SchemaDecls.Proofs.Visits

/-!
# Texts that are put together on the way

A pass may also be read as a function that answers with a text for each node:
the texts for the children that come first, the node's own declaration and the
texts for the other children, joined by line breaks, without the pieces that
are empty.  `Walk.write` is that function.  Its joins are nested as deep as the
walk goes.

`write_eq` says that the nesting leaves no trace.  The text is one join over
all declarations of the walk in their order, and since no declaration is empty
(`Declaration.ne_empty`) nothing of it is dropped: it is the section that is
written for the walk.
-/

namespace SchemaDecls

/-! ## Joins -/

/-- The texts that are not empty, each on new lines. -/
def joinLines (parts : List String) : String :=
  "\n".intercalate (parts.filter (· != ""))

theorem joinLines_empty_cons (rest : List String) : joinLines ("" :: rest) = joinLines rest := by
  simp [joinLines]

theorem joinLines_singleton (text : String) : joinLines [text] = text := by
  by_cases h : text = "" <;> simp [joinLines, h]

theorem joinLines_pair_empty (text : String) : joinLines [text, ""] = text := by
  by_cases h : text = "" <;> simp [joinLines, h]

theorem joinLines_pair (first second : String) (hfirst : first ≠ "") (hsecond : second ≠ "") :
    joinLines [first, second] = first ++ "\n" ++ second := by
  simp [joinLines, hfirst, hsecond, String.append_assoc]

/-- A join is empty only if there is nothing to be joined. -/
theorem joinLines_eq_empty_iff (parts : List String) :
    joinLines parts = "" ↔ parts.filter (· != "") = [] := by
  constructor
  · intro h
    cases hkept : parts.filter (· != "") with
    | nil => rfl
    | cons text rest =>
        have hmem : text ∈ parts.filter (· != "") := by simp [hkept]
        have hne : text ≠ "" := by simpa using (List.mem_filter.mp hmem).2
        unfold joinLines at h
        rw [hkept] at h
        cases rest with
        | nil => exact absurd (by simpa using h) hne
        | cons next rest => simp [hne] at h
  · intro h
    simp [joinLines, h]

/-- A join of joins is one join. -/
theorem joinLines_append (xs ys : List String) :
    joinLines (xs ++ ys) = joinLines [joinLines xs, joinLines ys] := by
  by_cases hx : xs.filter (· != "") = []
  · rw [(joinLines_eq_empty_iff xs).mpr hx, joinLines_empty_cons, joinLines_singleton]
    simp [joinLines, hx]
  · by_cases hy : ys.filter (· != "") = []
    · rw [(joinLines_eq_empty_iff ys).mpr hy, joinLines_pair_empty]
      simp [joinLines, hy]
    · rw [joinLines_pair _ _ (mt (joinLines_eq_empty_iff xs).mp hx)
        (mt (joinLines_eq_empty_iff ys).mp hy)]
      unfold joinLines
      rw [List.filter_append, String.intercalate_append_of_ne_nil hx hy]

/-- A join depends on its pieces only through their joins. -/
theorem joinLines_append_congr {xs xs' ys ys' : List String} (hx : joinLines xs = joinLines xs')
    (hy : joinLines ys = joinLines ys') : joinLines (xs ++ ys) = joinLines (xs' ++ ys') := by
  rw [joinLines_append, hx, hy, ← joinLines_append]

/-! ## Walks that write -/

/-- How a walk ended that puts its text together on the way. -/
structure Written (α : Type) where
  result : Except Failure α
  visited : Visited

/-- Goes on after a walk, unless it failed. -/
def Written.andThen {α β : Type} (first : Written α) (next : α → Visited → Written β) :
    Written β :=
  match first.result with
  | .error f => ⟨.error f, first.visited⟩
  | .ok a => next a first.visited

namespace Walk

/-- The texts for the children in their order. -/
def writeAll (write : Child → Visited → Written String) : List Child → Visited →
    Written (List String)
  | [], v => ⟨.ok [], v⟩
  | c :: rest, v =>
      (write c v).andThen fun text v =>
        (writeAll write rest v).andThen fun texts v => ⟨.ok (text :: texts), v⟩

/-- The text of a node's own declaration, empty if it is not to be declared. -/
def ownText (declares : Bool) (g : Graph) (o : Options) (n : Node) : Except Failure String :=
  if declares then Declaration.ofNode g o n else .ok ""

/-- The texts that the plan for a node asks for, joined. -/
def writePlan (write : Child → Visited → Written String) (g : Graph) (o : Options) (n : Node)
    (plan : Plan) (v : Visited) : Written String :=
  (writeAll write plan.before v).andThen fun before v =>
    (Written.mk (ownText plan.declares g o n) v).andThen fun own v =>
      (writeAll write plan.after v).andThen fun after v =>
        ⟨.ok (joinLines (before ++ own :: after)), v⟩

/-- The walk of a pass from a child on, down to a depth of so many nodes, with
a text for each node. -/
def writeUpTo (g : Graph) (o : Options) (p : Pass) : Nat → Child → Visited → Written String
  | 0, _, v => ⟨.error .endlessNesting, v⟩
  | depth + 1, c, v =>
      match g.item c with
      | .value x => ⟨.error (.unsupported (.value x)), v⟩
      | .node id n =>
          if v.holds id n then ⟨.ok "", v⟩
          else
            match p.plan n with
            | none => ⟨.error (.unsupported n.offender), v.insert id n⟩
            | some plan => writePlan (writeUpTo g o p depth) g o n plan (v.insert id n)

section

variable {g : Graph} {o : Options} {p : Pass} {depth : Nat} {c : Child} {v : Visited}
  {id : NodeId} {n : Node}

theorem writeUpTo_of_value {x : Value} (h : g.item c = .value x) :
    writeUpTo g o p (depth + 1) c v = ⟨.error (.unsupported (.value x)), v⟩ := by
  simp [writeUpTo, h]

theorem writeUpTo_of_holds (h : g.item c = .node id n) (hv : v.holds id n = true) :
    writeUpTo g o p (depth + 1) c v = ⟨.ok "", v⟩ := by
  simp [writeUpTo, h, hv]

theorem writeUpTo_of_plan_eq_none (h : g.item c = .node id n) (hv : v.holds id n = false)
    (hp : p.plan n = none) :
    writeUpTo g o p (depth + 1) c v = ⟨.error (.unsupported n.offender), v.insert id n⟩ := by
  simp [writeUpTo, h, hv, hp]

theorem writeUpTo_of_plan_eq_some {plan : Plan} (h : g.item c = .node id n)
    (hv : v.holds id n = false) (hp : p.plan n = some plan) :
    writeUpTo g o p (depth + 1) c v =
      writePlan (writeUpTo g o p depth) g o n plan (v.insert id n) := by
  simp [writeUpTo, h, hv, hp]

end

/-- The text that a pass writes from a child on. -/
def write (g : Graph) (o : Options) (p : Pass) (c : Child) (v : Visited) : Written String :=
  writeUpTo g o p (g.size + 1) c v

end Walk

/-- The outcome of a walk with one join over all of its declarations. -/
def Outcome.joined (out : Outcome) : Written String :=
  ⟨out.result.map fun ds => joinLines (ds.map Declared.text), out.visited⟩

/-- Texts and declarations that come to the same when they are joined, or the
same failure. -/
inductive Written.Agrees : Written (List String) → Outcome → Prop
  | failed {f : Failure} {v : Visited} : Agrees ⟨.error f, v⟩ ⟨.error f, v⟩
  | returned {texts : List String} {ds : List Declared} {v : Visited}
      (h : joinLines texts = joinLines (ds.map Declared.text)) : Agrees ⟨.ok texts, v⟩ ⟨.ok ds, v⟩

namespace Walk

section

variable {g : Graph} {o : Options} {write : Child → Visited → Written String}
  {visit : Child → Visited → Outcome}

/-- The texts for several children agree with the declarations on the way. -/
private theorem writeAll_agrees (hwrite : ∀ c v, write c v = (visit c v).joined)
    (cs : List Child) (v : Visited) : (writeAll write cs v).Agrees (visitAll visit cs v) := by
  induction cs generalizing v with
  | nil => exact .returned rfl
  | cons c rest ih =>
      unfold writeAll visitAll
      rw [hwrite]
      obtain ⟨result, w⟩ := visit c v
      cases result with
      | error f => exact .failed
      | ok ds =>
          rw [Outcome.andThen_of_ok rfl]
          have hrest := ih w
          simp only [Outcome.joined, Written.andThen, Except.map]
          generalize writeAll write rest w = written at hrest ⊢
          generalize visitAll visit rest w = out at hrest ⊢
          cases hrest with
          | failed => exact .failed
          | @returned texts more x h =>
              refine .returned ?_
              rw [List.map_append, ← List.singleton_append]
              exact joinLines_append_congr (joinLines_singleton _) h

private theorem declareIf_of_ownText_eq_error {declares : Bool} {n : Node} {f : Failure}
    (h : ownText declares g o n = .error f) (id : NodeId) (v : Visited) :
    declareIf declares g o id n v = ⟨.error f, v⟩ := by
  unfold ownText at h
  unfold declareIf
  cases declares with
  | false => contradiction
  | true =>
      simp only [if_true] at h ⊢
      rw [h]
      rfl

private theorem declareIf_of_ownText_eq_ok {declares : Bool} {n : Node} {own : String}
    (h : ownText declares g o n = .ok own) (id : NodeId) (v : Visited) :
    ∃ ds, declareIf declares g o id n v = ⟨.ok ds, v⟩ ∧
      joinLines [own] = joinLines (ds.map Declared.text) := by
  unfold ownText at h
  unfold declareIf
  cases declares with
  | false =>
      obtain rfl := Except.ok.inj h
      exact ⟨[], rfl, joinLines_empty_cons []⟩
  | true =>
      simp only [if_true] at h ⊢
      rw [h]
      exact ⟨[⟨id, own⟩], rfl, rfl⟩

/-- Carrying out a plan, the one way and the other. -/
private theorem writePlan_eq (hwrite : ∀ c v, write c v = (visit c v).joined) (id : NodeId)
    (n : Node) (plan : Plan) (v : Visited) :
    writePlan write g o n plan v = (follow visit g o id n plan v).joined := by
  have hbefore := writeAll_agrees hwrite plan.before v
  unfold writePlan follow
  generalize writeAll write plan.before v = written at hbefore ⊢
  generalize visitAll visit plan.before v = out at hbefore ⊢
  cases hbefore with
  | failed => rfl
  | @returned before ds₁ w hds₁ =>
      have hafter := writeAll_agrees hwrite plan.after w
      simp only [Written.andThen, Outcome.andThen]
      cases hown : ownText plan.declares g o n with
      | error f =>
          rw [declareIf_of_ownText_eq_error hown id w]
          rfl
      | ok own =>
          obtain ⟨ds₂, hself, hds₂⟩ := declareIf_of_ownText_eq_ok hown id w
          rw [hself]
          simp only [Except.map]
          generalize writeAll write plan.after w = written at hafter ⊢
          generalize visitAll visit plan.after w = out at hafter ⊢
          cases hafter with
          | failed => rfl
          | @returned after ds₃ x hds₃ =>
              have htexts : joinLines (before ++ own :: after) =
                  joinLines ((ds₁ ++ ds₂ ++ ds₃).map Declared.text) := by
                rw [← List.singleton_append, ← List.append_assoc, List.map_append,
                  List.map_append]
                exact joinLines_append_congr (joinLines_append_congr hds₁ hds₂) hds₃
              simp [Outcome.joined, Except.map, htexts]

end

/-- The walk that writes and the walk that collects declarations go the same
way, fail alike, and come to the same text. -/
theorem writeUpTo_eq (g : Graph) (o : Options) (p : Pass) (depth : Nat) (c : Child) (v : Visited) :
    writeUpTo g o p depth c v = (walkUpTo g o p depth c v).joined := by
  induction depth generalizing c v with
  | zero => rfl
  | succ depth ih =>
      cases hitem : g.item c with
      | value x =>
          rw [walkUpTo_of_value hitem, writeUpTo_of_value hitem]
          rfl
      | node id n =>
          cases hheld : v.holds id n with
          | true =>
              rw [walkUpTo_of_holds hitem hheld, writeUpTo_of_holds hitem hheld]
              rfl
          | false =>
              cases hplan : p.plan n with
              | none =>
                  rw [walkUpTo_of_plan_eq_none hitem hheld hplan,
                    writeUpTo_of_plan_eq_none hitem hheld hplan]
                  rfl
              | some plan =>
                  rw [walkUpTo_of_plan_eq_some hitem hheld hplan,
                    writeUpTo_of_plan_eq_some hitem hheld hplan]
                  exact writePlan_eq ih id n plan (v.insert id n)

theorem write_eq (g : Graph) (o : Options) (p : Pass) (c : Child) (v : Visited) :
    write g o p c v = (walk g o p c v).joined :=
  writeUpTo_eq g o p (g.size + 1) c v

end Walk

/-- Nothing that a walk declares is dropped from a join. -/
theorem Visits.joinLines_eq {g : Graph} {o : Options} {p : Pass} {cs : List Child} {v w : Visited}
    {ds : List Declared} (h : Visits g o p cs v ds w) :
    joinLines (ds.map Declared.text) = sectionText ds := by
  have hkept : (ds.map Declared.text).filter (· != "") = ds.map Declared.text := by
    rw [List.filter_eq_self]
    intro text htext
    obtain ⟨d, hd, rfl⟩ := List.mem_map.mp htext
    simpa using (h.declarationAt hd).ne_empty
  unfold joinLines sectionText
  rw [hkept]

/-- What a pass writes is the section of what it declares. -/
theorem Walk.write_result (g : Graph) (o : Options) (p : Pass) (c : Child) (v : Visited) :
    (write g o p c v).result = (walk g o p c v).result.map sectionText := by
  rw [write_eq]
  unfold Outcome.joined
  cases hends : (walk g o p c v).result with
  | error f => rfl
  | ok ds =>
      have hvisits : Visits g o p [c] v ds (walk g o p c v).visited := by
        apply visits_of_walk
        rw [← hends]
      simp only [Except.map, hvisits.joinLines_eq]

end SchemaDecls
