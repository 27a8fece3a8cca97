/-!
# Dictionaries ordered by key

A dictionary is the list of its entries in increasing order of their keys, so equal dictionaries
are equal lists. Inserting replaces the entry of the same key.
-/

namespace FlowConsole

/-- Entries with distinct keys in increasing order. -/
abbrev Dictionary (α : Type) := List (String × α)

namespace Dictionary

variable {α : Type}

/-- Adds an entry, or replaces the one of the same key. -/
def insert (key : String) (value : α) : Dictionary α → Dictionary α
  | [] => [(key, value)]
  | (k, v) :: rest =>
    if key < k then (key, value) :: (k, v) :: rest
    else if key = k then (key, value) :: rest
    else (k, v) :: insert key value rest

/-- The dictionary of a list of entries; the last entry of a key wins. -/
def ofEntries (entries : List (String × α)) : Dictionary α :=
  entries.foldl (fun d e => insert e.1 e.2 d) []

/-- The value of a key. -/
def find? (d : Dictionary α) (key : String) : Option α := List.lookup key d

/-- The keys in increasing order. -/
def keys (d : Dictionary α) : List String := d.map Prod.fst

/-- Inserting an entry adds its key and keeps the others. -/
theorem mem_keys_insert {key : String} {value : α} {d : Dictionary α} {k : String} :
    k ∈ keys (insert key value d) ↔ k = key ∨ k ∈ keys d := by
  induction d with
  | nil => simp [insert, keys]
  | cons e rest ih =>
    obtain ⟨k', v⟩ := e
    rw [insert]
    split
    · simp [keys]
    · split
      · next hk => simp [keys, hk]
      · simp only [keys, List.map_cons, List.mem_cons] at ih ⊢
        rw [ih, or_left_comm]

/-- The keys of a dictionary are those of its entries. -/
theorem mem_keys_ofEntries {entries : List (String × α)} {k : String} :
    k ∈ keys (ofEntries entries) ↔ k ∈ entries.map Prod.fst := by
  suffices h : ∀ d : Dictionary α,
      k ∈ keys (entries.foldl (fun d e => insert e.1 e.2 d) d) ↔
        k ∈ entries.map Prod.fst ∨ k ∈ keys d by
    have hnil : k ∉ keys ([] : Dictionary α) := List.not_mem_nil
    rw [ofEntries, h, or_iff_left hnil]
  induction entries with
  | nil => simp
  | cons e rest ih =>
    intro d
    rw [List.foldl_cons, ih, mem_keys_insert, List.map_cons, List.mem_cons, or_left_comm,
      or_assoc]

end Dictionary

/-- The distinct strings of a list in increasing order. -/
def sortedNames (names : List String) : List String :=
  (Dictionary.ofEntries (names.map fun n => (n, ()))).keys

/-- Sorting names loses none and adds none. -/
theorem mem_sortedNames {names : List String} {n : String} : n ∈ sortedNames names ↔ n ∈ names := by
  rw [sortedNames, Dictionary.mem_keys_ofEntries, List.map_map]
  exact Iff.of_eq (congrArg (n ∈ ·) (List.map_id names))

end FlowConsole
