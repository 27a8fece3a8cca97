import FlowConsole.Merge.Basic
import FlowConsole.Proofs.Merge.Gathering

/-!
# Runs of a merger

A merger is fed answers one by one; an answer that it refuses leaves it as it is. Whatever the
answers, it then holds what can be read off the accepted ones at once: their items gathered, how
many items there were and how many of them were dropped, and the statistics in order. What runs of
all mergers have in common is said once (`add_ofInputs`, `feedAll_of_add`). Log lines are the same
if their time and their text are. Main statement: `feedAll_streams`.
-/

open FlowConsole.Response (Answer Entry Kind Labelled)

namespace FlowConsole.Merge

variable {α κ : Type} [DecidableEq κ]

/-! ### Merged inputs -/

/-- What an accepted answer brings. -/
structure Input (α : Type) where
  groups : List (Labelled α)
  stats : Json

/-- The groups of all inputs in order. -/
def inputGroups (inputs : List (Input α)) : List (Labelled α) := inputs.flatMap (·.groups)

/-- What is merged after the inputs. -/
def Merged.ofInputs (key : α → κ) (limitReached : Bool) (inputs : List (Input α)) : Merged α where
  groups := gathered key (inputGroups inputs)
  stats := {
    queries := inputs.length
    limitReached
    total := (allItems (inputGroups inputs)).length
    duplicates :=
      (allItems (inputGroups inputs)).length -
        (allItems (gathered key (inputGroups inputs))).length
    queriesStats := inputs.map (·.stats) }

/-- The groups of one more input come last. -/
theorem inputGroups_concat (inputs : List (Input α)) (i : Input α) :
    inputGroups (inputs ++ [i]) = inputGroups inputs ++ i.groups := by
  rw [inputGroups, List.flatMap_append, List.flatMap_singleton]
  rfl

/-- No more items are kept than there are. -/
theorem itemCount_gathered_le (key : α → κ) (groups : List (Labelled α)) :
    itemCount (gathered key groups) ≤ itemCount groups := by
  have hg := addGroups_gathered key [] groups
  have hc := addGroups_count key (gathered key []) groups
  have hz : itemCount (gathered key ([] : List (Labelled α))) = 0 := rfl
  rw [hg, hz, List.nil_append] at hc
  omega

/-- Adding one more input to merged ones merges it too, if the limit is told by the inputs as it is
told by what is added and what there is then. -/
theorem add_ofInputs (key : α → κ) (reached : List (Labelled α) → List (Labelled α) → Bool)
    (limitReached : List (Input α) → Bool) (inputs : List (Input α)) (i : Input α)
    (hlimit : (limitReached inputs || reached i.groups (gathered key (inputGroups (inputs ++ [i]))))
      = limitReached (inputs ++ [i])) :
    (Merged.ofInputs key (limitReached inputs) inputs).add key reached i.groups i.stats =
      .ofInputs key (limitReached (inputs ++ [i])) (inputs ++ [i]) := by
  have hg := addGroups_gathered key (inputGroups inputs) i.groups
  have hc := addGroups_count key (gathered key (inputGroups inputs)) i.groups
  have hle := itemCount_gathered_le key (inputGroups inputs)
  rw [hg] at hc
  have hdup : itemCount (inputGroups inputs) - itemCount (gathered key (inputGroups inputs)) +
      (addGroups key (gathered key (inputGroups inputs)) i.groups).2 =
      itemCount (inputGroups inputs) + itemCount i.groups -
        itemCount (gathered key (inputGroups inputs ++ i.groups)) := by
    omega
  rw [← hlimit, Merged.add, Merged.ofInputs, Merged.ofInputs, inputGroups_concat]
  simp only [← itemCount_eq]
  rw [hg, hdup, itemCount_append, List.length_append, List.length_singleton, List.map_append,
    List.map_singleton]

/-! ### Runs -/

/-- The merger after an answer. A refused answer changes nothing. -/
def Merger.feed (m : Merger) (a : Answer) : Merger :=
  match m.add a with
  | .ok m => m
  | .error _ => m

/-- The merger after answers in order. -/
def Merger.feedAll (m : Merger) (answers : List Answer) : Merger := answers.foldl Merger.feed m

section

variable {kind : Kind} {input? : Answer → Option (Input α)} {state : List (Input α) → Merger}

/-- What adding an answer gives in the state of the inputs: the state of one input more, or the
refusal of an answer that is none, by the name of its kind. -/
def added (kind : Kind) (input? : Answer → Option (Input α)) (state : List (Input α) → Merger)
    (inputs : List (Input α)) (a : Answer) : Except Error Merger :=
  match input? a with
  | some i => .ok (state (inputs ++ [i]))
  | none => .error (.wrongKind kind a.result.kind)

private theorem feed_of_add (hadd : ∀ inputs a, (state inputs).add a =
    added kind input? state inputs a) (inputs : List (Input α)) (a : Answer) :
    (state inputs).feed a = state (inputs ++ (input? a).toList) := by
  rw [Merger.feed, hadd, added]
  cases input? a with
  | none => rw [Option.toList_none, List.append_nil]
  | some i => rfl

/-- A merger that each answer takes from the state of the accepted inputs to such a state is after
any answers in the state of the inputs among them, and takes one more as it did before. -/
theorem feedAll_of_add (hadd : ∀ inputs a, (state inputs).add a =
    added kind input? state inputs a) (answers : List Answer) :
    (state []).feedAll answers = state (answers.filterMap input?) ∧
      ∀ a, ((state []).feedAll answers).add a =
        added kind input? state (answers.filterMap input?) a := by
  have hrun (inputs : List (Input α)) :
      (state inputs).feedAll answers = state (inputs ++ answers.filterMap input?) := by
    induction answers generalizing inputs with
    | nil => rw [List.filterMap_nil, List.append_nil]; rfl
    | cons a rest ih =>
      have hrest := ih (inputs ++ (input? a).toList)
      rw [List.append_assoc] at hrest
      rw [Merger.feedAll, List.foldl_cons, feed_of_add hadd, List.filterMap_cons]
      cases ha : input? a with
      | none | some i =>
        rw [ha] at hrest
        exact hrest
  have hall := hrun []
  rw [List.nil_append] at hall
  refine ⟨hall, fun a => ?_⟩
  rw [hall]
  exact hadd _ a

end

/-! ### Streams -/

/-- The input of an answer with streams. -/
def streamsInput? (a : Answer) : Option (Input Entry) :=
  match a.result with
  | .streams groups => some ⟨groups, a.stats⟩
  | .matrix _ => none

/-- A single input has as many lines as the limit. -/
def linesReached (limit : Nat) (inputs : List (Input Entry)) : Bool :=
  inputs.any fun i => limit ≤ (allItems i.groups).length

/-- The merged streams of the inputs: one stream for each set of labels, and in it the lines with
the same time and text once. -/
def mergedStreams (limit : Nat) (inputs : List (Input Entry)) : Merged Entry :=
  .ofInputs (fun e => (e.nanos, e.line)) (linesReached limit inputs) inputs

private theorem add_streams (limit : Nat) (inputs : List (Input Entry)) (a : Answer) :
    (Merger.streams limit (mergedStreams limit inputs)).add a =
      added .streams streamsInput? (fun inputs => .streams limit (mergedStreams limit inputs))
        inputs a := by
  obtain ⟨result, stats⟩ := a
  cases result with
  | streams groups =>
    have hlimit : (linesReached limit inputs || decide (limit ≤ itemCount groups)) =
        linesReached limit (inputs ++ [⟨groups, stats⟩]) := by
      rw [linesReached, linesReached, List.any_append, List.any_cons, List.any_nil, Bool.or_false]
      rfl
    exact congrArg (fun m => Except.ok (Merger.streams limit m))
      (add_ofInputs entryKey (fun added _ => decide (limit ≤ itemCount added))
        (linesReached limit) inputs ⟨groups, stats⟩ hlimit)
  | matrix groups => rfl

/-- A merger of streams holds, after any answers, exactly the merged streams of those among them
that have streams. It accepts just these; one of another kind is refused by its name. -/
theorem feedAll_streams (limit : Nat) (answers : List Answer) :
    (Merger.start .streams limit).feedAll answers =
        .streams limit (mergedStreams limit (answers.filterMap streamsInput?)) ∧
      ∀ a, ((Merger.start .streams limit).feedAll answers).add a =
        added .streams streamsInput? (fun inputs => .streams limit (mergedStreams limit inputs))
          (answers.filterMap streamsInput?) a :=
  feedAll_of_add (add_streams limit) answers

end FlowConsole.Merge
