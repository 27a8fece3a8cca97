import FlowConsole.Merge.Grouped
import Mathlib.Data.List.Induction

/-!
# Gathered items

What merging amounts to, stated without its steps: the items of all groups, gathered in one group
for each set of labels. Labels stand in the order in which they first appear, and so do the items
under them, each key once. Adding groups one by one to gathered ones gathers them all
(`addGroups_gathered`), and every item is either kept or counted as dropped (`addGroups_count`).
-/

open FlowConsole.Response (Labelled)

namespace FlowConsole.Merge

variable {α κ : Type} [DecidableEq κ]

/-- The items, each key once, where it first appears. -/
def firsts (key : α → κ) (items : List α) : List α := items.eraseDupsBy fun a b => key a == key b

/-- The items of all groups, in the order of the groups. -/
def allItems (groups : List (Labelled α)) : List α := groups.flatMap (·.items)

/-- The items of the groups with these labels, in the order of the groups. -/
def itemsUnder (labels : Dictionary String) (groups : List (Labelled α)) : List α :=
  (groups.filter fun g => g.labels == labels).flatMap (·.items)

/-- One group for each set of labels, with the first item of each key that is under them. -/
def gathered (key : α → κ) (groups : List (Labelled α)) : List (Labelled α) :=
  (firsts id (groups.map (·.labels))).map fun labels =>
    ⟨labels, firsts key (itemsUnder labels groups)⟩

/-! ### First appearances -/

/-- The first item is kept, and of the rest what has other keys. -/
theorem firsts_cons (key : α → κ) (a : α) (items : List α) :
    firsts key (a :: items) = a :: firsts key (items.filter fun b => key b ≠ key a) := by
  simp only [firsts, List.eraseDupsBy_cons]
  congr 3
  funext b
  by_cases h : key b = key a <;> simp [h]

/-- An item at the end is kept unless its key has appeared. -/
theorem firsts_concat (key : α → κ) (items : List α) (a : α) :
    firsts key (items ++ [a]) =
      if key a ∈ items.map key then firsts key items else firsts key items ++ [a] := by
  induction hn : items.length using Nat.strongRecOn generalizing items with
  | ind n ih =>
    cases items with
    | nil => rfl
    | cons b rest =>
      have hlt : (rest.filter fun c => key c ≠ key b).length < n := by
        have := List.length_filter_le (fun c => decide (key c ≠ key b)) rest
        rw [List.length_cons] at hn
        omega
      rw [List.cons_append, firsts_cons, firsts_cons, List.filter_append]
      by_cases hab : key a = key b
      · simp [hab]
      · have hmem : key a ∈ (rest.filter fun c => key c ≠ key b).map key ↔
            key a ∈ rest.map key := by
          simp only [List.mem_map, List.mem_filter, decide_eq_true_eq]
          constructor
          · rintro ⟨c, ⟨hc, -⟩, he⟩
            exact ⟨c, hc, he⟩
          · rintro ⟨c, hc, he⟩
            exact ⟨c, ⟨hc, by rw [he]; exact hab⟩, he⟩
        have hone : ([a].filter fun c => key c ≠ key b) = [a] := by simp [hab]
        rw [hone, ih _ hlt _ rfl]
        by_cases ha : key a ∈ rest.map key
        · rw [if_pos (hmem.mpr ha), if_pos (by simp [ha])]
        · rw [if_neg (fun h => ha (hmem.mp h)), if_neg (by simpa [hab] using ha)]
          rfl

/-- The keys that are kept are those that appear. -/
theorem mem_map_firsts (key : α → κ) (items : List α) (k : κ) :
    k ∈ (firsts key items).map key ↔ k ∈ items.map key := by
  induction items using List.reverseRecOn with
  | nil => rfl
  | append_singleton items a ih =>
    rw [firsts_concat]
    split
    · next ha =>
      rw [ih, List.map_append, List.mem_append]
      constructor
      · exact .inl
      · rintro (h | h)
        · exact h
        · rw [List.map_singleton, List.mem_singleton] at h
          exact h ▸ ha
    · rw [List.map_append, List.map_append, List.mem_append, List.mem_append, ih]

/-- No key is kept twice. -/
theorem nodup_map_firsts (key : α → κ) (items : List α) : ((firsts key items).map key).Nodup := by
  induction items using List.reverseRecOn with
  | nil => exact List.nodup_nil
  | append_singleton items a ih =>
    rw [firsts_concat]
    split
    · exact ih
    · next ha =>
      rw [List.map_append, List.map_singleton, List.nodup_append]
      refine ⟨ih, by simp, ?_⟩
      intro k hk l hl he
      rw [List.mem_singleton] at hl
      exact ha ((mem_map_firsts key items (key a)).mp (hl ▸ he ▸ hk))

/-! ### Items of one group -/

/-- Adding items to first ones gives the first ones of all. -/
theorem addItems_firsts (key : α → κ) (before items : List α) :
    (addItems key (firsts key before) items).1 = firsts key (before ++ items) := by
  induction items generalizing before with
  | nil => rw [List.append_nil]; rfl
  | cons a rest ih =>
    have hall := ih (before ++ [a])
    rw [List.append_assoc, List.singleton_append, firsts_concat] at hall
    rw [addItems]
    by_cases ha : key a ∈ before.map key
    · rw [if_pos ha] at hall
      rw [if_pos ((mem_map_firsts key before (key a)).mpr ha)]
      exact hall
    · rw [if_neg ha] at hall
      rw [if_neg fun h => ha ((mem_map_firsts key before (key a)).mp h)]
      exact hall

/-- Every item that is added is kept or counted. -/
theorem addItems_count (key : α → κ) (kept items : List α) :
    (addItems key kept items).1.length + (addItems key kept items).2 =
      kept.length + items.length := by
  induction items generalizing kept with
  | nil => rfl
  | cons a rest ih =>
    rw [addItems, List.length_cons]
    split
    · have := ih kept
      dsimp only
      omega
    · have := ih (kept ++ [a])
      rw [List.length_append, List.length_singleton] at this
      omega

/-! ### Groups -/

private theorem addGroup_of_not_mem (key : α → κ) (groups : List (Labelled α)) (g : Labelled α)
    (h : g.labels ∉ groups.map (·.labels)) :
    (addGroup key groups g).1 = groups ++ [⟨g.labels, (addItems key [] g.items).1⟩] := by
  induction groups with
  | nil => rfl
  | cons hd rest ih =>
    rw [List.map_cons, List.mem_cons, not_or] at h
    rw [addGroup, if_neg (Ne.symm h.1)]
    exact congrArg (hd :: ·) (ih h.2)

private theorem addGroup_of_mem (key : α → κ) (sets : List (Dictionary String))
    (items : Dictionary String → List α) (g : Labelled α) (hd : sets.Nodup) (h : g.labels ∈ sets) :
    (addGroup key (sets.map fun l => ⟨l, items l⟩) g).1 =
      sets.map fun l =>
        ⟨l, if l = g.labels then (addItems key (items l) g.items).1 else items l⟩ := by
  induction sets with
  | nil => cases h
  | cons l rest ih =>
    rw [List.nodup_cons] at hd
    rw [List.map_cons, List.map_cons, addGroup]
    by_cases hl : l = g.labels
    · have hrest : (rest.map fun l => (⟨l, items l⟩ : Labelled α)) =
          rest.map fun l =>
            ⟨l, if l = g.labels then (addItems key (items l) g.items).1 else items l⟩ := by
        apply List.map_congr_left
        intro m hm
        rw [if_neg fun he => hd.1 (by rw [hl, ← he]; exact hm)]
      rw [if_pos hl, if_pos hl, hrest]
    · have hr : g.labels ∈ rest := (List.mem_cons.mp h).resolve_left (Ne.symm hl)
      rw [if_neg hl, if_neg hl]
      exact congrArg (_ :: ·) (ih hd.2 hr)

private theorem itemsUnder_concat (labels : Dictionary String) (groups : List (Labelled α))
    (g : Labelled α) :
    itemsUnder labels (groups ++ [g]) =
      itemsUnder labels groups ++ if labels = g.labels then g.items else [] := by
  rw [itemsUnder, List.filter_append, List.flatMap_append]
  by_cases h : labels = g.labels
  · rw [if_pos h, List.filter_cons, if_pos (by rw [h, beq_self_eq_true])]
    simp [itemsUnder]
  · rw [if_neg h, List.filter_cons, if_neg (by simpa using Ne.symm h)]
    rfl

private theorem itemsUnder_of_not_mem {labels : Dictionary String} {groups : List (Labelled α)}
    (h : labels ∉ groups.map (·.labels)) : itemsUnder labels groups = [] := by
  have hf : (groups.filter fun g => g.labels == labels) = [] := by
    apply List.filter_eq_nil_iff.mpr
    intro g hg he
    exact h (List.mem_map.mpr ⟨g, hg, by simpa using he⟩)
  rw [itemsUnder, hf]
  rfl

/-- Adding a group to gathered ones gathers it too. -/
theorem addGroup_gathered (key : α → κ) (groups : List (Labelled α)) (g : Labelled α) :
    (addGroup key (gathered key groups) g).1 = gathered key (groups ++ [g]) := by
  have hsets := firsts_concat id (groups.map (·.labels)) g.labels
  rw [List.map_id, id] at hsets
  have hmem (l : Dictionary String) :
      l ∈ firsts id (groups.map (·.labels)) ↔ l ∈ groups.map (·.labels) := by
    simpa using mem_map_firsts id (groups.map (·.labels)) l
  by_cases hg : g.labels ∈ groups.map (·.labels)
  · rw [if_pos hg] at hsets
    have hn : (firsts id (groups.map (·.labels))).Nodup := by
      simpa using nodup_map_firsts id (groups.map (·.labels))
    rw [gathered, addGroup_of_mem key _ _ g hn ((hmem _).mpr hg), gathered, List.map_append,
      List.map_singleton, hsets]
    apply List.map_congr_left
    intro l _
    rw [itemsUnder_concat, addItems_firsts]
    split
    · rfl
    · rw [List.append_nil]
  · rw [if_neg hg] at hsets
    have hl : (gathered key groups).map (·.labels) = firsts id (groups.map (·.labels)) := by
      rw [gathered, List.map_map]
      exact List.map_id _
    rw [addGroup_of_not_mem key _ g (by rw [hl, hmem]; exact hg), gathered, gathered,
      List.map_append, List.map_singleton, hsets, List.map_append, List.map_singleton]
    congr 1
    · apply List.map_congr_left
      intro l hl
      rw [itemsUnder_concat, if_neg, List.append_nil]
      intro he
      exact hg (he ▸ (hmem l).mp hl)
    · rw [itemsUnder_concat, itemsUnder_of_not_mem hg, if_pos rfl, List.nil_append]
      exact congrArg (fun items => [(⟨g.labels, items⟩ : Labelled α)])
        (addItems_firsts key [] g.items)

/-- Adding groups to gathered ones gathers them all. -/
theorem addGroups_gathered (key : α → κ) (groups added : List (Labelled α)) :
    (addGroups key (gathered key groups) added).1 = gathered key (groups ++ added) := by
  induction added generalizing groups with
  | nil => rw [List.append_nil]; rfl
  | cons g rest ih =>
    rw [addGroups]
    dsimp only
    rw [addGroup_gathered, ih, List.append_assoc, List.singleton_append]

/-! ### Numbers of items -/

/-- Items are counted group by group. -/
theorem itemCount_eq (groups : List (Labelled α)) : itemCount groups = (allItems groups).length :=
  rfl

/-- The items of a list of groups are those of its first and of the others. -/
theorem itemCount_cons (g : Labelled α) (groups : List (Labelled α)) :
    itemCount (g :: groups) = g.items.length + itemCount groups := by
  rw [itemCount, List.flatMap_cons, List.length_append, itemCount]

/-- Items of groups in a row are counted together. -/
theorem itemCount_append (groups added : List (Labelled α)) :
    itemCount (groups ++ added) = itemCount groups + itemCount added := by
  rw [itemCount, List.flatMap_append, List.length_append, itemCount, itemCount]

private theorem addGroup_count (key : α → κ) (groups : List (Labelled α)) (g : Labelled α) :
    itemCount (addGroup key groups g).1 + (addGroup key groups g).2 =
      itemCount groups + g.items.length := by
  induction groups with
  | nil =>
    have := addItems_count key [] g.items
    rw [addGroup]
    dsimp only
    rw [itemCount_cons]
    exact this
  | cons hd rest ih =>
    rw [addGroup]
    split
    · have := addItems_count key hd.items g.items
      simp only [itemCount_cons]
      omega
    · simp only [itemCount_cons]
      omega

/-- Every item that is added is kept or counted as dropped. -/
theorem addGroups_count (key : α → κ) (groups added : List (Labelled α)) :
    itemCount (addGroups key groups added).1 + (addGroups key groups added).2 =
      itemCount groups + itemCount added := by
  induction added generalizing groups with
  | nil => rfl
  | cons g rest ih =>
    have hg := addGroup_count key groups g
    have hr := ih (addGroup key groups g).1
    rw [addGroups, itemCount_cons]
    dsimp only
    omega

end FlowConsole.Merge
