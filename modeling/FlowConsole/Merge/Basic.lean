import FlowConsole.Merge.Grouped

/-!
# Merging answers

The answers to the queries of one request are merged into one response. All must be of one kind;
an answer of the other kind is refused and changes nothing. Log lines are the same if their time
and their text are, samples if their time and the text of their value are.
-/

namespace FlowConsole.Merge

open Response (Answer Entry Kind Labelled Result Sample)

/-- What is told about the answers that were merged. -/
structure Stats where
  queries : Nat := 0
  limitReached : Bool := false
  /-- The number of items of all answers. -/
  total : Nat := 0
  duplicates : Nat := 0
  /-- The statistics of the answers, in their order. -/
  queriesStats : List Json := []

/-- The groups and the statistics of the answers so far. -/
structure Merged (α : Type) where
  groups : List (Labelled α) := []
  stats : Stats := {}

/-- Adds the groups of an answer. `reached` tells from the added and from all groups whether the
limit is reached; once it is, it stays so. -/
def Merged.add {α κ : Type} [DecidableEq κ] (key : α → κ)
    (reached : List (Labelled α) → List (Labelled α) → Bool) (m : Merged α)
    (groups : List (Labelled α)) (stats : Json) : Merged α :=
  let r := addGroups key m.groups groups
  { groups := r.1
    stats := {
      queries := m.stats.queries + 1
      limitReached := m.stats.limitReached || reached groups r.1
      total := m.stats.total + itemCount groups
      duplicates := m.stats.duplicates + r.2
      queriesStats := m.stats.queriesStats ++ [stats] } }

/-- Why an answer is not merged. -/
inductive Error
  | wrongKind (expected actual : Kind)
  deriving DecidableEq, Repr

/-- The wording of an error. -/
def Error.message : Error → String
  | .wrongKind expected actual =>
    "wrong result type: expected " ++ expected.name ++ ", got " ++ actual.name

/-- The key of a log line. -/
def entryKey (e : Entry) : Int × String := (e.nanos, e.line)

/-- The key of a sample. -/
def sampleKey (s : Sample) : Int × String := (s.millis, s.valueText)

/-- A merger of answers of one kind. The limit of streams is the number of lines of one answer, the
limit of a matrix the number of series of all answers. -/
inductive Merger
  | streams (limit : Nat) (merged : Merged Entry)
  | matrix (limit : Nat) (merged : Merged Sample)

namespace Merger

/-- The merger that has seen no answer. -/
def start (kind : Kind) (limit : Nat) : Merger :=
  match kind with
  | .streams => .streams limit {}
  | .matrix => .matrix limit {}

/-- Adds an answer of the merger's kind. -/
def add (m : Merger) (a : Answer) : Except Error Merger :=
  match m, a.result with
  | .streams limit merged, .streams groups =>
    .ok (.streams limit
      (merged.add entryKey (fun added _ => limit ≤ itemCount added) groups a.stats))
  | .matrix limit merged, .matrix groups =>
    .ok (.matrix limit
      (merged.add sampleKey (fun _ all => limit ≤ all.length) groups a.stats))
  | .streams _ _, .matrix _ => .error (.wrongKind .streams .matrix)
  | .matrix _ _, .streams _ => .error (.wrongKind .matrix .streams)

/-- Adds answers in order up to the first that is refused. -/
def addAll (m : Merger) (answers : List Answer) : Except Error Merger := answers.foldlM add m

/-- The merged result. -/
def result : Merger → Result
  | .streams _ merged => .streams merged.groups
  | .matrix _ merged => .matrix merged.groups

/-- What is told about the merged answers. -/
def stats : Merger → Stats
  | .streams _ merged => merged.stats
  | .matrix _ merged => merged.stats

end Merger

/-- The response of a request. -/
structure Response where
  result : Result
  stats : Stats

/-- The response of the answers merged so far. -/
def Merger.response (m : Merger) : Response := ⟨m.result, m.stats⟩

/-- The JSON form of statistics. -/
def Stats.toJson (s : Stats) : Json :=
  .ofEntries [("numQueries", .ofNat s.queries), ("limitReached", .bool s.limitReached),
    ("totalEntries", .ofNat s.total), ("duplicates", .ofNat s.duplicates),
    ("queriesStats", .array s.queriesStats)]

/-- The members of the JSON form of a response. -/
def Response.members (r : Response) : List (String × Json) :=
  [("resultType", .string r.result.kind.name), ("result", r.result.toJson),
    ("stats", r.stats.toJson), ("isMock", .bool false)]

end FlowConsole.Merge
