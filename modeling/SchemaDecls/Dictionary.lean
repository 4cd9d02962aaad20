/-!
# Ordered dictionaries

A dictionary is a list of entries with one entry for each key. Writing under a key that is there
already keeps the entry's place and replaces its value; a new key goes to the end. So a repeated key
has the place of its first mention and the value of its last.
-/

namespace SchemaDecls.Dictionary

variable {α : Type}

/-- Writes a value under a key. -/
def put (key : String) (value : α) : List (String × α) → List (String × α)
  | [] => [(key, value)]
  | (k, v) :: rest => if k = key then (k, value) :: rest else (k, v) :: put key value rest

/-- The dictionary that results from writing the pairs one after another. -/
def ofPairs (pairs : List (String × α)) : List (String × α) :=
  pairs.foldl (fun entries pair => put pair.1 pair.2 entries) []

/-- The keys of a dictionary in their order. -/
def keys (entries : List (String × α)) : List String := entries.map Prod.fst

/-- A new key goes to the end, and a key that is there keeps its place. -/
theorem keys_put (key : String) (value : α) (entries : List (String × α)) :
    keys (put key value entries) =
      if key ∈ keys entries then keys entries else keys entries ++ [key] := by
  induction entries with
  | nil => rfl
  | cons entry rest ih =>
    obtain ⟨k, v⟩ := entry
    by_cases h : k = key
    · simp [put, keys, h]
    · have h' : ¬key = k := fun e => h e.symm
      simp only [keys] at ih
      simp only [put, keys, h, if_false, List.map_cons, List.mem_cons, h', false_or, ih]
      split <;> simp_all

theorem nodup_keys_put (key : String) (value : α) {entries : List (String × α)}
    (h : (keys entries).Nodup) : (keys (put key value entries)).Nodup := by
  rw [keys_put]
  split
  · exact h
  · next hk =>
    refine List.nodup_append.mpr ⟨h, by simp, fun k hk' k' h' e => ?_⟩
    rw [e, List.mem_singleton.mp h'] at hk'
    exact hk hk'

example : ofPairs [("a", 1), ("b", 2), ("a", 3)] = [("a", 3), ("b", 2)] := rfl

end SchemaDecls.Dictionary
