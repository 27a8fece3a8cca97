import FlowConsole.LogQL.Topology
import FlowConsole.Request.Metrics
import FlowConsole.Request.Records
import FlowConsole.Service.State

/-!
# Planning queries

Which queries answer a request. Every group of filters has a query of its own. Records come from the
log store. Metrics come from the metric store if it has a metric that answers the group, and from
the log store otherwise, unless the request insists on one of the two.
-/

namespace FlowConsole.Service.State

/-- The queries for records. -/
def planRecords (s : State) (r : Request.Records) : Except Failure (List StoreQuery) := do
  let base ← Request.accept s.lokiUrl
  r.filters.mapM fun g => do
    let q ← (LogQL.FlowQuery.ofGroup s.config.catalog r.options g).mapError .query
    let q := if r.matchMode = .any then q.matchAny else q
    let url ← (q.url base).mapError .query
    return { source := .loki, url }

/-- The metric that answers a group, if the metric store may be asked. -/
def metricFor? (s : State) (r : Request.Metrics) (g : Filter.Group) : Option PromQL.MetricInfo :=
  if r.source = .loki ∨ !s.stores.prom then none else s.config.inventory.plan? g r.metric

/-- The filters with the match of the layer in every group. -/
def withLayer (r : Request.Metrics) : Filter.Expression :=
  match r.layer with
  | none => r.filters
  | some layer =>
    r.filters.distribute [[{ key := Field.flowLayer, values := layer.atom }]] fun _ => false

/-- The filters of the wanted reporters. With both reporters, groups are split so that no flow
counts twice, unless the console merges such flows or the log store cannot select by direction; the
metric store counts no flow twice. -/
def withReporter (s : State) (r : Request.Metrics) (e : Filter.Expression) : Filter.Expression :=
  if r.reporter = .both then
    if s.config.frontend.deduper.merge || !s.config.catalog.isLabel Field.flowDirection then e
    else Reporter.expand e r.namespaceName fun g => (s.metricFor? r g).isSome
  else r.reporter.restrict e

/-- Why the metric store cannot answer a group. -/
def unanswerable (s : State) (r : Request.Metrics) (g : Filter.Group) : Request.Rejection :=
  .unanswerable g.render (s.config.inventory.disabledForGroup g r.metric)

/-- The query of a group for metrics. -/
def planGroup (s : State) (r : Request.Metrics) (g : Filter.Group) : Except Failure StoreQuery :=
  match s.metricFor? r g with
  | some metric => do
    let base := s.config.prometheus.url
    let url ← (PromQL.url base metric g r.metric r.promWindow).mapError .query
    return { source := .prom, url }
  | none => do
    if r.source = .prom then throw (.rejected (s.unanswerable r g))
    let base ← Request.accept s.lokiUrl
    let q ← (LogQL.TopologyQuery.ofGroup s.config.catalog r.flow r.metric g).mapError .query
    let url ← (q.url base).mapError .query
    return { source := .loki, url }

/-- The queries for metrics. -/
def planMetrics (s : State) (r : Request.Metrics) : Except Failure (List StoreQuery) := do
  if r.source = .prom ∧ !s.stores.prom then throw (.rejected (.disabled .prom))
  (s.withReporter r (withLayer r)).mapM (s.planGroup r)

end FlowConsole.Service.State
