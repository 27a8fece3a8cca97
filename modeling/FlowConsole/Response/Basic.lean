import FlowConsole.Decimal.Format
import FlowConsole.Json.Basic

/-!
# Answers of stores

A range query is answered with log streams or with time series. A stream is a list of log lines
under a set of labels, a series a list of samples; their JSON forms are what the stores write and
what the console reads.
-/

namespace FlowConsole.Response

/-- A log line. The time is in nanoseconds since the epoch. -/
structure Entry where
  nanos : Int
  line : String
  deriving DecidableEq, Repr

/-- A value at a time. The time is in milliseconds since the epoch. -/
structure Sample where
  millis : Int
  value : Float

/-- Items under a set of labels. -/
structure Labelled (α : Type) where
  labels : Dictionary String
  items : List α
  deriving DecidableEq, Repr

/-- Log lines under their labels. -/
abbrev Stream := Labelled Entry

/-- Samples under their labels. -/
abbrev Series := Labelled Sample

/-- The kind of an answer. -/
inductive Kind
  | streams
  | matrix
  deriving DecidableEq, Repr

/-- The name of a kind in answers. -/
def Kind.name : Kind → String
  | .streams => "streams"
  | .matrix => "matrix"

/-- What a query is answered with. -/
inductive Result
  | streams (streams : List Stream)
  | matrix (series : List Series)

/-- The kind of a result. -/
def Result.kind : Result → Kind
  | .streams _ => .streams
  | .matrix _ => .matrix

/-- The answer to one query. The statistics are passed on as they are. -/
structure Answer where
  result : Result
  stats : Json

/-- The text of a sample's value. -/
def Sample.valueText (s : Sample) : String := Decimal.sampleText s.value

/-- The time of a sample in seconds. -/
def Sample.seconds (s : Sample) : Float := (Int64.ofInt s.millis).toFloat / 1000.0

/-- The JSON form of an entry. -/
def Entry.toJson (e : Entry) : Json := .array [.string (toString e.nanos), .string e.line]

/-- The JSON form of a sample. -/
def Sample.toJson (s : Sample) : Json :=
  .array [.number (.float s.seconds), .string s.valueText]

/-- The JSON form of labelled items; `name` is the member that holds the labels. -/
def Labelled.toJson {α : Type} (name : String) (item : α → Json) (g : Labelled α) : Json :=
  .ofEntries [(name, .ofTexts g.labels), ("values", .array (g.items.map item))]

/-- The member that holds the labels of a stream. -/
def streamLabels : String := "stream"

/-- The member that holds the labels of a series. -/
def seriesLabels : String := "metric"

/-- The JSON form of a result. -/
def Result.toJson : Result → Json
  | .streams ss => .array (ss.map (Labelled.toJson streamLabels Entry.toJson))
  | .matrix ss => .array (ss.map (Labelled.toJson seriesLabels Sample.toJson))

end FlowConsole.Response
