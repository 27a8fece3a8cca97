import FlowConsole.Proofs.Merge.Runs
import Mathlib.Data.Finset.Card

/-!
# Runs of a merger of series

As with streams, what a merger of series holds can be read off the accepted answers at once. But its
limit is on the series of all answers so far and not on one answer, so whether it is reached is a
matter of the history. That it once was is no more than that it is now, since adding answers only
adds series (`seriesCount_mono`). Main statement: `feedAll_matrix`.
-/

open FlowConsole.Response (Answer Labelled Sample Series)

namespace FlowConsole.Merge

/-! ### Distinct series -/

/-- The number of distinct sets of labels. -/
def seriesCount {α : Type} (groups : List (Labelled α)) : Nat :=
  (groups.map (·.labels)).toFinset.card

/-- There is one gathered group for each set of labels. -/
theorem length_gathered {α κ : Type} [DecidableEq κ] (key : α → κ) (groups : List (Labelled α)) :
    (gathered key groups).length = seriesCount groups := by
  have hnodup : (firsts id (groups.map (·.labels))).Nodup := by
    simpa using nodup_map_firsts id (groups.map (·.labels))
  have hset : (firsts id (groups.map (·.labels))).toFinset = (groups.map (·.labels)).toFinset := by
    ext labels
    simpa using mem_map_firsts id (groups.map (·.labels)) labels
  rw [gathered, List.length_map, seriesCount, ← hset, List.toFinset_card_of_nodup hnodup]

/-- More groups have no fewer sets of labels. -/
theorem seriesCount_mono {α : Type} (groups added : List (Labelled α)) :
    seriesCount groups ≤ seriesCount (groups ++ added) := by
  apply Finset.card_le_card
  intro labels hl
  rw [List.mem_toFinset] at hl ⊢
  rw [List.map_append]
  exact List.mem_append_left _ hl

/-! ### Series -/

/-- The input of an answer with series. -/
def matrixInput? (a : Answer) : Option (Input Sample) :=
  match a.result with
  | .streams _ => none
  | .matrix groups => some ⟨groups, a.stats⟩

/-- There are inputs, and they have as many distinct series together as the limit. -/
def seriesReached (limit : Nat) (inputs : List (Input Sample)) : Bool :=
  inputs ≠ [] ∧ limit ≤ seriesCount (inputGroups inputs)

/-- The merged series of the inputs: one series for each set of labels, and in it the samples with
the same time and text of the value once. -/
def mergedMatrix (limit : Nat) (inputs : List (Input Sample)) : Merged Sample :=
  .ofInputs (fun s => (s.millis, s.valueText)) (seriesReached limit inputs) inputs

-- Once the limit is reached it stays so, since no series goes away.
private theorem seriesReached_concat (limit : Nat) (inputs : List (Input Sample))
    (i : Input Sample) :
    (seriesReached limit inputs ||
        decide (limit ≤ (gathered sampleKey (inputGroups (inputs ++ [i]))).length)) =
      seriesReached limit (inputs ++ [i]) := by
  have hmono : seriesCount (inputGroups inputs) ≤ seriesCount (inputGroups (inputs ++ [i])) := by
    rw [inputGroups_concat]
    exact seriesCount_mono _ _
  have hne : inputs ++ [i] ≠ [] := by simp
  rw [length_gathered, seriesReached, seriesReached, ← Bool.decide_or, decide_eq_decide,
    and_iff_right hne]
  constructor
  · rintro (⟨-, h⟩ | h)
    · exact h.trans hmono
    · exact h
  · exact .inr

private theorem add_matrix (limit : Nat) (inputs : List (Input Sample)) (a : Answer) :
    (Merger.matrix limit (mergedMatrix limit inputs)).add a =
      added .matrix matrixInput? (fun inputs => .matrix limit (mergedMatrix limit inputs))
        inputs a := by
  obtain ⟨result, stats⟩ := a
  cases result with
  | streams groups => rfl
  | matrix groups =>
    exact congrArg (fun m => Except.ok (Merger.matrix limit m))
      (add_ofInputs sampleKey (fun _ all => decide (limit ≤ all.length)) (seriesReached limit)
        inputs ⟨groups, stats⟩ (seriesReached_concat limit inputs _))

/-- All values that are no numbers have one text. -/
theorem valueText_of_isNaN {s : Sample} (h : s.value.isNaN = true) : s.valueText = "NaN" := by
  rw [Sample.valueText, Decimal.sampleText, if_pos h]

/-- A merger of series holds, after any answers, exactly the merged series of those among them that
have series; values that are no numbers are the same there. It accepts just these answers; one of
another kind is refused by its name. -/
theorem feedAll_matrix (limit : Nat) (answers : List Answer) :
    ((Merger.start .matrix limit).feedAll answers =
        .matrix limit (mergedMatrix limit (answers.filterMap matrixInput?)) ∧
      ∀ a, ((Merger.start .matrix limit).feedAll answers).add a =
        added .matrix matrixInput? (fun inputs => .matrix limit (mergedMatrix limit inputs))
          (answers.filterMap matrixInput?) a) ∧
      ∀ s : Sample, s.value.isNaN = true → s.valueText = "NaN" :=
  ⟨feedAll_of_add (add_matrix limit) answers, fun _ => valueText_of_isNaN⟩

/-- Of the samples of one time, two whose values are no numbers are one; zero and negative zero are
two. -/
theorem feedAll_matrix_notNumbers :
    let nan : Sample := ⟨0, 0.0 / 0.0⟩
    let samples : List Sample := [nan, ⟨0, 0.0⟩, ⟨0, -(0.0 / 0.0)⟩, ⟨0, -0.0⟩]
    let answer : Answer := ⟨.matrix [⟨[], samples⟩], .null⟩
    (Merger.start .matrix 2).feedAll [answer] =
        .matrix 2 (mergedMatrix 2 [⟨[⟨[], samples⟩], .null⟩]) ∧
      nan.value.isNaN = true ∧ nan.valueText = "NaN" ∧
      (mergedMatrix 2 [⟨[⟨[], samples⟩], .null⟩]).groups.map (fun g => g.items.map (·.valueText)) =
        [["NaN", "0", "-0"]] ∧
      (mergedMatrix 2 [⟨[⟨[], samples⟩], .null⟩]).stats.duplicates = 1 := by
  intro nan samples answer
  have hnan : nan.value.isNaN = true := by decide +kernel
  exact ⟨(feedAll_matrix 2 [answer]).1.1, hnan, (feedAll_matrix 2 [answer]).2 nan hnan,
    by decide +kernel, by decide +kernel⟩

end FlowConsole.Merge
