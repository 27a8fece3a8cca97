import FlowConsole.Dictionary

/-!
# The order of dictionaries

The keys of a dictionary are distinct and in increasing order, and inserting keeps them so. An entry
of such a dictionary is the one that is found by its key.
-/

namespace FlowConsole

namespace Dictionary

variable {α : Type} {d : Dictionary α} {key : String} {value : α}

/-- The keys are distinct and in increasing order. -/
def Ordered (d : Dictionary α) : Prop := d.keys.Pairwise (· < ·)

/-- The first key is smaller than the others. -/
theorem ordered_cons {e : String × α} :
    Ordered (e :: d) ↔ (∀ k ∈ keys d, e.1 < k) ∧ Ordered d :=
  List.pairwise_cons

/-- Other values leave the order as it is. -/
theorem ordered_map {β : Type} {f : String × α → β} :
    Ordered (d.map fun e => (e.1, f e)) ↔ Ordered d := by
  rw [Ordered, Ordered, keys, keys, List.map_map]
  rfl

/-- What a key is looked up to is an entry. -/
theorem mem_of_find? (h : find? d key = some value) : (key, value) ∈ d := by
  obtain ⟨before, after, rfl, -⟩ := List.lookup_eq_some_iff.mp h
  exact List.mem_append_right before List.mem_cons_self

/-- Inserting keeps the order. -/
theorem Ordered.insert (h : Ordered d) (key : String) (value : α) :
    Ordered (insert key value d) := by
  induction d with
  | nil => exact List.pairwise_singleton _ key
  | cons e d ih =>
    obtain ⟨hfirst, hrest⟩ := ordered_cons.mp h
    rw [Dictionary.insert]
    split
    · next hlt =>
      refine ordered_cons.mpr ⟨List.forall_mem_cons.mpr ⟨hlt, fun k hk => ?_⟩, h⟩
      exact String.lt_trans hlt (hfirst k hk)
    · next hge =>
      split
      · next heq => exact ordered_cons.mpr ⟨fun k hk => heq ▸ hfirst k hk, hrest⟩
      · next hne =>
        have hgt : e.1 < key := Decidable.byContradiction fun hle =>
          hne (String.le_antisymm (String.not_lt.mp hle) (String.not_lt.mp hge))
        refine ordered_cons.mpr ⟨fun k hk => ?_, ih hrest⟩
        rcases mem_keys_insert.mp hk with rfl | hk
        · exact hgt
        · exact hfirst k hk

/-- The dictionary of a list of entries is in order. -/
theorem ordered_ofEntries (entries : List (String × α)) : Ordered (ofEntries entries) := by
  suffices h : ∀ d : Dictionary α, Ordered d →
      Ordered (entries.foldl (fun d e => Dictionary.insert e.1 e.2 d) d) from
    h [] List.Pairwise.nil
  induction entries with
  | nil => exact fun d hd => hd
  | cons e entries ih => exact fun d hd => ih _ (hd.insert e.1 e.2)

/-- Inserting adds no other entry. -/
theorem mem_of_mem_insert {e : String × α} (h : e ∈ Dictionary.insert key value d) :
    e = (key, value) ∨ e ∈ d := by
  induction d with
  | nil => exact .inl (List.mem_singleton.mp h)
  | cons e' d ih =>
    rw [Dictionary.insert] at h
    split at h
    · exact List.mem_cons.mp h
    · split at h
      · exact (List.mem_cons.mp h).imp_right (List.mem_cons_of_mem e')
      · rcases List.mem_cons.mp h with rfl | h
        · exact .inr List.mem_cons_self
        · exact (ih h).imp_right (List.mem_cons_of_mem e')

/-- The entries of a dictionary are among those it is made of. -/
theorem mem_of_mem_ofEntries {e : String × α} {entries : List (String × α)}
    (h : e ∈ ofEntries entries) : e ∈ entries := by
  suffices hfold : ∀ d : Dictionary α,
      e ∈ entries.foldl (fun d e => Dictionary.insert e.1 e.2 d) d → e ∈ d ∨ e ∈ entries from
    (hfold [] h).resolve_left List.not_mem_nil
  clear h
  induction entries with
  | nil => exact fun d hd => .inl hd
  | cons e' entries ih =>
    intro d hd
    rcases ih _ hd with hd | hd
    · rcases mem_of_mem_insert hd with rfl | hd
      · exact .inr List.mem_cons_self
      · exact .inl hd
    · exact .inr (List.mem_cons_of_mem e' hd)

/-- An entry with a larger key than all others is inserted after them. -/
theorem insert_of_lt (h : ∀ k ∈ d.keys, k < key) :
    Dictionary.insert key value d = d ++ [(key, value)] := by
  induction d with
  | nil => rfl
  | cons e d ih =>
    obtain ⟨hfirst, hrest⟩ := List.forall_mem_cons.mp h
    rw [Dictionary.insert, if_neg (String.lt_asymm hfirst), if_neg (String.ne_of_lt hfirst).symm,
      ih hrest, List.cons_append]

/-- The dictionary of entries that are in order has these entries. -/
theorem Ordered.ofEntries_eq (h : Ordered d) : ofEntries d = d := by
  suffices hfold : ∀ before : Dictionary α, Ordered (before ++ d) →
      d.foldl (fun d e => Dictionary.insert e.1 e.2 d) before = before ++ d from hfold [] h
  induction d with
  | nil => exact fun before _ => (List.append_nil before).symm
  | cons e d ih =>
    intro before hbefore
    have hlt : ∀ k ∈ keys before, k < e.1 := by
      intro k hk
      rw [Ordered, keys, List.map_append] at hbefore
      exact (List.pairwise_append.mp hbefore).2.2 k hk e.1 (List.mem_map_of_mem List.mem_cons_self)
    rw [List.foldl_cons, insert_of_lt hlt, ih (ordered_cons.mp h).2]
    · rw [List.append_assoc, List.singleton_append]
    · rwa [List.append_assoc, List.singleton_append]

/-- An entry is found by its key. -/
theorem Ordered.find?_of_mem (h : Ordered d) (hmem : (key, value) ∈ d) :
    find? d key = some value := by
  induction d with
  | nil => exact absurd hmem List.not_mem_nil
  | cons e d ih =>
    obtain ⟨hfirst, hrest⟩ := ordered_cons.mp h
    rw [find?, List.lookup_cons]
    rcases List.mem_cons.mp hmem with rfl | hmem
    · rw [beq_self_eq_true]
    · have hlt : e.1 < key := hfirst key (List.mem_map_of_mem hmem)
      rw [beq_eq_false_iff_ne.mpr (String.ne_of_lt hlt).symm]
      exact ih hrest hmem

end Dictionary

/-- Sorted names are distinct and in increasing order. -/
theorem pairwise_sortedNames (names : List String) : (sortedNames names).Pairwise (· < ·) :=
  Dictionary.ordered_ofEntries _

/-- No name is sorted in twice. -/
theorem nodup_sortedNames (names : List String) : (sortedNames names).Nodup :=
  (pairwise_sortedNames names).imp String.ne_of_lt

end FlowConsole
