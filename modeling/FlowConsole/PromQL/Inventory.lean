import FlowConsole.Dictionary
import FlowConsole.Field
import FlowConsole.Filter.Basic
import FlowConsole.LogQL.Atom
import FlowConsole.Metric.Aggregate

/-!
# Metric inventory

The metrics that the flow pipeline exports to a metric store, as configured, and which of them can
answer a metric query. A metric answers a query if it measures the wanted value, supports the
function, has the wanted direction, and carries every label that the query groups or filters by.
-/

namespace FlowConsole.PromQL

/-- The kind of a metric. -/
inductive MetricKind
  | counter
  | histogram
  deriving DecidableEq, Repr

/-- An exported metric. -/
structure MetricInfo where
  enabled : Bool := true
  name : String
  kind : MetricKind
  measure : Metric.Measure
  direction : Direction := .any
  /-- The distinct labels in increasing order. -/
  labels : List String := []
  deriving DecidableEq, Repr

/-- What a query requires of a metric. -/
structure MetricNeed where
  /-- The distinct labels in increasing order. -/
  labels : List String
  measure : Metric.Measure
  direction : Direction
  function : Metric.Function
  deriving DecidableEq, Repr

namespace MetricNeed

/-- The direction that a match asks for by a single value. -/
def directionOf? (m : Filter.Match) : Option Direction :=
  if m.key = Field.flowDirection ∧ !m.negated ∧ !m.regex then
    match m.atoms with
    | [atom] =>
      Direction.ofCode? (if LogQL.Atom.isExact atom then LogQL.Atom.unquoted atom else atom)
    | _ => none
  else none

/-- The labels that the matches compare, those of single directions excepted. -/
def labelsOf (g : Filter.Group) : List String :=
  (g.filter fun m => (directionOf? m).isNone).map Filter.Match.key

/-- The direction of the last match that asks for one. -/
def directionOf (g : Filter.Group) : Direction := (g.filterMap directionOf?).getLast?.getD .any

/-- What the query of a group requires. There is no way to ask a metric store for numbers from a
bound upwards. -/
def ofGroup? (g : Filter.Group) (options : Metric.Options) : Option MetricNeed :=
  if g.any Filter.Match.atLeast then none
  else
    some {
      labels := sortedNames (options.aggregate.labels ++ labelsOf g)
      measure := options.measure
      direction := directionOf g
      function := options.effectiveFunction }

end MetricNeed

namespace MetricInfo

/-- The start of the names of exported metrics. -/
def exported : String := "netobserv_"

/-- The name that users know, which is also the flag that enables the metric. -/
def shortName (m : MetricInfo) : String :=
  ((exported.toList.isPrefixOf? m.name.toList).map String.ofList).getD m.name

/-- The function can be computed from a metric of this kind. -/
def supports (m : MetricInfo) (f : Metric.Function) (measure : Metric.Measure) : Bool :=
  match m.kind with
  | .counter => f == .rate || measure.isCount
  | .histogram => f == .avg || f == .p90 || f == .p99

/-- The metric has the direction, or has them all and can be asked for this one. -/
def hasDirection (m : MetricInfo) (d : Direction) : Bool :=
  m.direction == d ||
    (m.direction == .any && d != .any && m.labels.contains Field.flowDirection)

/-- The metric answers queries with this need. -/
def satisfies (m : MetricInfo) (need : MetricNeed) : Bool :=
  m.measure == need.measure && m.supports need.function need.measure &&
    m.hasDirection need.direction && need.labels.all m.labels.contains

/-- The counter of flows that comes with a histogram of name service latencies. -/
def countRow? (m : MetricInfo) : Option MetricInfo :=
  if m.kind = .histogram ∧ Text.occursIn "_dns_latency_seconds".toList m.name.toList then
    some { m with name := m.name ++ "_count", kind := .counter, measure := .dnsFlows }
  else none

end MetricInfo

/-- The metrics in order of preference. -/
abbrev Inventory := List MetricInfo

namespace Inventory

/-- The inventory of the configured metrics, followed by the counters that come with them. -/
def ofConfigured (metrics : List MetricInfo) : Inventory :=
  metrics ++ metrics.filterMap MetricInfo.countRow?

/-- The metric answers the need and may be asked. -/
def isCandidate (need : MetricNeed) (m : MetricInfo) : Bool := m.enabled && m.satisfies need

/-- The first enabled metric that answers the need. -/
def find? (i : Inventory) (need : MetricNeed) : Option MetricInfo :=
  List.find? (isCandidate need) i

/-- The short names of the disabled metrics that would answer the need. -/
def disabledFor (i : Inventory) (need : MetricNeed) : List String :=
  (i.filter fun m => !m.enabled && m.satisfies need).map MetricInfo.shortName

/-- The metric that answers the query of a group. -/
def plan? (i : Inventory) (g : Filter.Group) (options : Metric.Options) : Option MetricInfo :=
  (MetricNeed.ofGroup? g options).bind i.find?

/-- The short names of the disabled metrics that would answer the query of a group. -/
def disabledForGroup (i : Inventory) (g : Filter.Group) (options : Metric.Options) : List String :=
  ((MetricNeed.ofGroup? g options).map i.disabledFor).getD []

end Inventory

end FlowConsole.PromQL
