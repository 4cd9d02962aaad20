import Mathlib.Data.List.Induction
import SchemaDecls.Options

/-!
# The last mention of an option

An option goes by two names, and where a dictionary has entries under both, the later entry
counts (`Options.get_ofEntries`).  Later means further down in the dictionary, which is not
the same as written later: a dictionary that is written pair by pair keeps a name in the place
of its first mention and takes the value of its last (`Dictionary.Reads`).  In
`bannerComment: 1, banner_comment: 2, bannerComment: 3` it is the `2` that counts.

Names of no option leave no trace wherever they stand, for they can be taken out of the pairs
before these are read (`Dictionary.filter_ofPairs`).  Two entries that name no option in common
can change places, since each of them only sets what it names (`Options.takeEntry_comm`).
-/

namespace SchemaDecls

/-! ## Pairs that are read as a dictionary -/

namespace Dictionary

variable {α : Type}

/-- The entries are what the pairs are read as.  Each key is there once, in the place of its
first mention, and with the value of its last. -/
structure Reads (pairs entries : List (String × α)) : Prop where
  nodup : (keys entries).Nodup
  keys_eq : keys entries = (keys pairs).eraseDups
  lookup_eq : ∀ key, entries.lookup key = pairs.reverse.lookup key

theorem ofPairs_concat (pairs : List (String × α)) (pair : String × α) :
    ofPairs (pairs ++ [pair]) = put pair.1 pair.2 (ofPairs pairs) := by
  simp [ofPairs]

theorem lookup_cons_eq_ite (key : String) (entry : String × α) (rest : List (String × α)) :
    (entry :: rest).lookup key = if key = entry.1 then some entry.2 else rest.lookup key := by
  rw [List.lookup_cons]
  by_cases hkey : key = entry.1
  · rw [if_pos hkey, beq_iff_eq.mpr hkey]
  · rw [if_neg hkey, beq_eq_false_iff_ne.mpr hkey]

theorem lookup_put (key other : String) (value : α) (entries : List (String × α)) :
    (put key value entries).lookup other =
      if other = key then some value else entries.lookup other := by
  induction entries with
  | nil => simp [put, lookup_cons_eq_ite]
  | cons entry rest ih =>
      obtain ⟨k, v⟩ := entry
      by_cases hkey : k = key
      · by_cases hother : other = key <;> simp [put, lookup_cons_eq_ite, hkey, hother]
      · by_cases hother : other = k
        · subst hother
          simp [put, hkey]
        · simp [put, lookup_cons_eq_ite, hkey, hother, ih]

/-- What is written under a key that is filtered out leaves no trace. -/
theorem filter_put (p : String → Bool) (key : String) (value : α) (entries : List (String × α)) :
    (put key value entries).filter (fun e => p e.1) =
      if p key then put key value (entries.filter fun e => p e.1)
      else entries.filter fun e => p e.1 := by
  induction entries with
  | nil => by_cases hp : p key <;> simp [put, hp]
  | cons entry rest ih =>
      obtain ⟨k, v⟩ := entry
      by_cases hkey : k = key
      · subst hkey
        by_cases hp : p k <;> simp [put, hp]
      · by_cases hk : p k <;> by_cases hp : p key <;> simp_all [put]

/-- The pairs are read as a dictionary. -/
theorem reads_ofPairs (pairs : List (String × α)) : Reads pairs (ofPairs pairs) := by
  induction pairs using List.reverseRecOn with
  | nil => exact ⟨List.nodup_nil, rfl, fun _ => rfl⟩
  | append_singleton pairs pair ih =>
      rw [ofPairs_concat]
      refine ⟨nodup_keys_put _ _ ih.nodup, ?_, ?_⟩
      · have hsplit : keys (pairs ++ [pair]) = keys pairs ++ [pair.1] := by simp [keys]
        rw [keys_put, hsplit, List.eraseDups_append, ih.keys_eq]
        by_cases hmem : pair.1 ∈ keys pairs <;> simp [List.removeAll, List.eraseDups_cons, hmem]
      · intro key
        rw [lookup_put, ih.lookup_eq]
        simp [lookup_cons_eq_ite]

/-- Reading commutes with taking keys out. -/
theorem filter_ofPairs (p : String → Bool) (pairs : List (String × α)) :
    (ofPairs pairs).filter (fun e => p e.1) = ofPairs (pairs.filter fun e => p e.1) := by
  induction pairs using List.reverseRecOn with
  | nil => rfl
  | append_singleton pairs pair ih =>
      rw [ofPairs_concat, filter_put, ih, List.filter_append]
      by_cases hp : p pair.1 <;> simp [hp, ofPairs_concat]

end Dictionary

/-! ## Names of options -/

namespace OptionKey

/-- The name is one of the two that the option goes by. -/
def Names (key : OptionKey) (s : String) : Prop := s = key.name ∨ s = key.otherName

instance (key : OptionKey) (s : String) : Decidable (key.Names s) :=
  inferInstanceAs (Decidable (_ ∨ _))

/-- No two options share a name. -/
theorem Names.unique {key key' : OptionKey} {s : String} (h : key.Names s) (h' : key'.Names s) :
    key = key' := by
  rcases h with rfl | rfl
  all_goals
    revert h'
    cases key <;> cases key' <;> decide

theorem ofName?_eq_some_iff {s : String} {key : OptionKey} :
    ofName? s = some key ↔ key.Names s := by
  constructor
  · intro h
    simpa [Names] using List.find?_some h
  · intro h
    cases hfound : ofName? s with
    | none =>
        have hall : key ∈ all := by cases key <;> decide
        have hnot : ¬ key.Names s := by simpa [Names] using List.find?_eq_none.mp hfound key hall
        exact absurd h hnot
    | some other =>
        have hother : other.Names s := by simpa [Names] using List.find?_some hfound
        rw [h.unique hother]

/-- The last entry with a name of the option. -/
def lastEntry? (key : OptionKey) (entries : List (String × Value)) : Option (String × Value) :=
  entries.reverse.find? fun entry => decide (key.Names entry.1)

end OptionKey

/-! ## Options that a dictionary gives -/

namespace Options

theorem eq_of_forall_get {o o' : Options} (h : ∀ key, o.get key = o'.get key) : o = o' := by
  obtain ⟨banner, constEnums, declareReferenced⟩ := o
  obtain ⟨banner', constEnums', declareReferenced'⟩ := o'
  obtain rfl : banner = banner' := h .banner
  obtain rfl : constEnums = constEnums' := h .constEnums
  obtain rfl : declareReferenced = declareReferenced' := h .declareReferenced
  rfl

/-- An entry sets what it names. -/
theorem get_takeEntry (o : Options) (entry : String × Value) (key : OptionKey) :
    (o.takeEntry entry).get key = if key.Names entry.1 then entry.2 else o.get key := by
  unfold takeEntry
  cases hname : OptionKey.ofName? entry.1 with
  | none =>
      have hnot : ¬ key.Names entry.1 := by
        rw [← OptionKey.ofName?_eq_some_iff, hname]
        exact nofun
      rw [if_neg hnot]
  | some named =>
      have hnamed := OptionKey.ofName?_eq_some_iff.mp hname
      by_cases hkey : key = named
      · subst hkey
        rw [if_pos hnamed, get_set_self]
      · have hnot : ¬ key.Names entry.1 := fun h => hkey (h.unique hnamed)
        rw [if_neg hnot, get_set_of_ne _ _ hkey]

/-- An entry that names nothing changes nothing. -/
theorem takeEntry_of_unnamed (o : Options) {entry : String × Value}
    (h : ∀ key : OptionKey, ¬ key.Names entry.1) : o.takeEntry entry = o := by
  apply eq_of_forall_get
  intro key
  rw [get_takeEntry, if_neg (h key)]

/-- Entries can be taken over in either order if they name nothing in common. -/
theorem takeEntry_comm (o : Options) {a b : String × Value}
    (h : ∀ key : OptionKey, ¬ (key.Names a.1 ∧ key.Names b.1)) :
    (o.takeEntry a).takeEntry b = (o.takeEntry b).takeEntry a := by
  apply eq_of_forall_get
  intro key
  have hkey := h key
  simp only [get_takeEntry]
  split_ifs with hb ha
  · exact absurd ⟨ha, hb⟩ hkey
  all_goals rfl

/-- The value of an option is that of the last entry that names it. -/
theorem get_ofEntries (entries : List (String × Value)) (key : OptionKey) :
    (ofEntries entries).get key =
      ((key.lastEntry? entries).map Prod.snd).getD (default.get key) := by
  unfold ofEntries OptionKey.lastEntry?
  induction entries using List.reverseRecOn with
  | nil => rfl
  | append_singleton entries entry ih =>
      rw [List.foldl_append, List.foldl_cons, List.foldl_nil, get_takeEntry, ih,
        List.reverse_append, List.reverse_singleton, List.singleton_append, List.find?_cons]
      by_cases hnames : key.Names entry.1 <;> simp [hnames]

theorem ofEntries_of_unnamed (before after : List (String × Value)) {entry : String × Value}
    (h : ∀ key : OptionKey, ¬ key.Names entry.1) :
    ofEntries (before ++ entry :: after) = ofEntries (before ++ after) := by
  simp only [ofEntries, List.foldl_append, List.foldl_cons, takeEntry_of_unnamed _ h]

theorem ofEntries_swap (before after : List (String × Value)) {a b : String × Value}
    (h : ∀ key : OptionKey, ¬ (key.Names a.1 ∧ key.Names b.1)) :
    ofEntries (before ++ a :: b :: after) = ofEntries (before ++ b :: a :: after) := by
  simp only [ofEntries, List.foldl_append, List.foldl_cons, takeEntry_comm _ h]

/-- Entries that name no option can be left out. -/
theorem ofEntries_filter (entries : List (String × Value)) :
    ofEntries (entries.filter fun entry => (OptionKey.ofName? entry.1).isSome) =
      ofEntries entries := by
  unfold ofEntries
  rw [List.foldl_filter]
  congr 1
  funext o entry
  unfold takeEntry
  cases OptionKey.ofName? entry.1 <;> rfl

theorem ofPairs_of_unnamed (before after : List (String × Value)) {entry : String × Value}
    (h : ∀ key : OptionKey, ¬ key.Names entry.1) :
    ofPairs (before ++ entry :: after) = ofPairs (before ++ after) := by
  have hnone : OptionKey.ofName? entry.1 = none := by
    cases hname : OptionKey.ofName? entry.1 with
    | none => rfl
    | some key => exact absurd (OptionKey.ofName?_eq_some_iff.mp hname) (h key)
  have hfilter : ∀ pairs, ofPairs pairs =
      ofEntries (Dictionary.ofPairs
        (pairs.filter fun entry => (OptionKey.ofName? entry.1).isSome)) := by
    intro pairs
    rw [← Dictionary.filter_ofPairs fun s => (OptionKey.ofName? s).isSome, ofEntries_filter,
      ofPairs]
  rw [hfilter, hfilter (before ++ after)]
  simp [hnone]

/-- No name is reported twice, so that the reported pairs are read as they are. -/
theorem ofPairs_toEntries (o : Options) : ofPairs o.toEntries = o := by
  have hreported : Dictionary.ofPairs o.toEntries = o.toEntries := rfl
  rw [ofPairs, hreported, ofEntries_toEntries]

/-- Options that are read from pairs have the values of the last entries that name them, in
the dictionary that the pairs are read as, or else the values by default.  Pairs and entries
that name no option change nothing wherever they are put in or left out, and two entries next
to each other can change places if no option is named by both.  Options that are reported and
read again are the same. -/
theorem resolve_by_last_mention (pairs : List (String × Value)) (o : Options) :
    Dictionary.Reads pairs (Dictionary.ofPairs pairs) ∧
      (∀ key, (ofPairs pairs).get key =
        ((key.lastEntry? (Dictionary.ofPairs pairs)).map Prod.snd).getD (default.get key)) ∧
      (∀ before after entry, (∀ key : OptionKey, ¬ key.Names entry.1) →
        ofPairs (before ++ entry :: after) = ofPairs (before ++ after) ∧
          ofEntries (before ++ entry :: after) = ofEntries (before ++ after)) ∧
      (∀ before after a b, (∀ key : OptionKey, ¬ (key.Names a.1 ∧ key.Names b.1)) →
        ofEntries (before ++ a :: b :: after) = ofEntries (before ++ b :: a :: after)) ∧
      ofPairs o.toEntries = o := by
  refine ⟨Dictionary.reads_ofPairs pairs, get_ofEntries (Dictionary.ofPairs pairs), ?_, ?_,
    ofPairs_toEntries o⟩
  · intro before after entry hunnamed
    exact ⟨ofPairs_of_unnamed before after hunnamed, ofEntries_of_unnamed before after hunnamed⟩
  · intro before after a b hapart
    exact ofEntries_swap before after hapart

/-- A banner that is given three times under two names, and the names of other things. -/
def bannerPairs : List (String × Value) :=
  [("bannerComment", .str "// one"), ("style", .null), ("banner_comment", .str "// two"),
    ("bannerComment", .str "// three"), ("enable_const_enums", .int 0)]

theorem bannerPairs_resolve :
    (∀ key : OptionKey, ¬ key.Names "style") ∧ (ofPairs bannerPairs).banner = .str "// two" ∧
      ofPairs bannerPairs = ofPairs (bannerPairs.eraseIdx 1) ∧
      (ofPairs bannerPairs).declareReferenced = .bool true := by
  have hstyle : ∀ key : OptionKey, ¬ key.Names "style" := by
    intro key
    cases key <;> decide
  obtain ⟨-, hget, hunnamed, -, -⟩ := resolve_by_last_mention bannerPairs default
  exact ⟨hstyle, hget .banner, (hunnamed (bannerPairs.take 1) (bannerPairs.drop 2)
    ("style", .null) hstyle).1, hget .declareReferenced⟩

end Options

end SchemaDecls
