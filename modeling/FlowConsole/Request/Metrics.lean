import FlowConsole.Metric.Aggregate
import FlowConsole.PromQL.Query
import FlowConsole.Reporter
import FlowConsole.Request.Parameter

/-!
# Requests for metrics

What a request for metrics of flows asks for.
-/

namespace FlowConsole.Request

/-- The store that is to answer. -/
inductive SourceChoice
  | auto
  | loki
  | prom
  deriving DecidableEq, Repr

/-- The choice of a word. -/
def SourceChoice.parse (word : String) : Except Rejection SourceChoice :=
  if word = "" ∨ word = "auto" then .ok .auto
  else if word = "loki" then .ok .loki
  else if word = "prom" then .ok .prom
  else .error (.unknownDataSource word)

/-- A part of the cluster that flows belong to. -/
inductive Layer
  | infrastructure
  | application
  deriving DecidableEq, Repr

/-- The atom of a layer. -/
def Layer.atom : Layer → String
  | .infrastructure => "\"infra\""
  | .application => "\"app\""

/-- The layer of a word. -/
def Layer.parse (word : String) : Except Rejection Layer :=
  if word = "infrastructure" then .ok .infrastructure
  else if word = "application" then .ok .application
  else .error (.unknownLayer word)

/-- The reporter of a word. -/
def readReporter (word : String) : Except Rejection Reporter :=
  (Reporter.ofWord? word).elim (.error (.unknownReporter word)) .ok

/-- A request for metrics. -/
structure Metrics where
  flow : LogQL.FlowOptions
  metric : Metric.Options
  /-- The window for metric stores, which need both bounds. -/
  promWindow : PromQL.Window
  filters : Filter.Expression
  source : SourceChoice
  layer : Option Layer
  reporter : Reporter
  namespaceName : Option String

namespace Metrics

/-- The names of the parameters. -/
def parameterNames : List String :=
  ["startTime", "endTime", "timeRange", "limit", "step", "rateInterval", "type", "function",
    "aggregateBy", "scope", "groups", "recordType", "packetLoss", "dedup", "filters", "dataSource",
    "layer", "reporter", "namespace"]

/-- The seconds before its end at which an open window starts for metric stores. -/
def defaultRange : Int := 3600

/-- The window for metric stores at the time `now`. -/
def closedWindow (window : Window) (now : Int) : Except Rejection PromQL.Window := do
  let finish := window.finish.getD now
  let start ←
    match window.start with
    | some start => pure start
    | none => inRange "endTime" finish (finish - defaultRange)
  return ⟨start, finish⟩

/-- A letter, digit or underscore of the ASCII range. -/
def isFieldChar (c : Char) : Bool := c.isAlphanum || c == '_'

/-- The name can be a label of a query. -/
def isField (name : String) : Bool := name ≠ "" && name.toList.all isFieldChar

/-- The measured value, which must be given. -/
def readMeasure (ps : Parameters) : Except Failure Metric.Measure :=
  match ps.given? "type" with
  | none => .error (.rejected (.missing "type"))
  | some word => (Metric.Measure.parse word).mapError .query

/-- The scope or the field to group by, which must be given. An empty `aggregateBy` does not leave
the choice to `scope`. -/
def aggregateKey (ps : Parameters) : Except Rejection String :=
  match ((ps.get? "aggregateBy").or (ps.get? "scope")).filter (· ≠ "") with
  | none => .error (.missing "aggregateBy")
  | some key => .ok key

/-- The aggregation. -/
def readAggregate (ps : Parameters) : Except Failure Metric.Aggregate := do
  let key ← accept (aggregateKey ps)
  let aggregate ← (Metric.Aggregate.parse key (ps.get? "groups")).mapError .query
  if aggregate.custom && !isField aggregate.key then throw (.rejected (.invalidAggregate key))
  return aggregate

/-- Reads a request at the time `now`. -/
def read (ps : Parameters) (now : Int) : Except Failure Metrics := do
  let window ← accept (Window.read ps now)
  let top ← accept ps.limit
  let step ← accept (ps.duration "step" "30s")
  let rateInterval ← accept (ps.duration "rateInterval" "2m")
  let measure ← readMeasure ps
  let function ← (ps.word? "function" Metric.Function.parse).mapError .query
  let aggregate ← readAggregate ps
  let dedup ← accept (ps.flag "dedup")
  let promWindow ← accept (closedWindow window now)
  let recordType ← ps.recordType?
  let packetLoss ← ps.packetLoss
  let filters ← ps.filters
  let source ← accept (SourceChoice.parse ((ps.get? "dataSource").getD ""))
  let layer ← accept (ps.word? "layer" Layer.parse)
  let reporter ← accept (ps.word? "reporter" readReporter)
  return {
    flow := {
      start := window.start
      finish := window.finish
      limit := some top
      dedup := if dedup then .dropDuplicates else .none
      recordType
      packetLoss }
    metric := {
      top
      step := step.render
      rateInterval := rateInterval.render
      measure
      function := function.getD .rate
      aggregate }
    promWindow
    filters
    source
    layer
    reporter := reporter.getD .both
    namespaceName := ps.given? "namespace" }

end Metrics

end FlowConsole.Request
