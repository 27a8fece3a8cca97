import FlowConsole.Response.Basic

/-!
# Merging labelled items

Items under equal labels are gathered in one group. Groups stand in the order in which their labels
first appeared, and so do the items of a group; an item whose key is already there is dropped.
-/

namespace FlowConsole.Merge

open Response (Labelled)

variable {α κ : Type} [DecidableEq κ]

/-- Appends the items whose keys are not there yet. Also tells how many were dropped. -/
def addItems (key : α → κ) (kept : List α) : List α → List α × Nat
  | [] => (kept, 0)
  | a :: rest =>
    if key a ∈ kept.map key then
      let r := addItems key kept rest
      (r.1, r.2 + 1)
    else addItems key (kept ++ [a]) rest

/-- Adds the items of a group to those under the same labels, or the group itself at the end. Also
tells how many items were dropped. -/
def addGroup (key : α → κ) : List (Labelled α) → Labelled α → List (Labelled α) × Nat
  | [], g =>
    let r := addItems key [] g.items
    ([⟨g.labels, r.1⟩], r.2)
  | h :: rest, g =>
    if h.labels = g.labels then
      let r := addItems key h.items g.items
      (⟨h.labels, r.1⟩ :: rest, r.2)
    else
      let r := addGroup key rest g
      (h :: r.1, r.2)

/-- Adds several groups in order. Also tells how many items were dropped. -/
def addGroups (key : α → κ) (groups : List (Labelled α)) :
    List (Labelled α) → List (Labelled α) × Nat
  | [] => (groups, 0)
  | g :: rest =>
    let r := addGroup key groups g
    let s := addGroups key r.1 rest
    (s.1, r.2 + s.2)

/-- The number of items of all groups. -/
def itemCount (groups : List (Labelled α)) : Nat := (groups.flatMap fun g => g.items).length

end FlowConsole.Merge
