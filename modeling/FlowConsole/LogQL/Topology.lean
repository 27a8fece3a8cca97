import FlowConsole.LogQL.Flow
import FlowConsole.Metric.Aggregate

/-!
# Topology queries

A topology query asks the log store for the most interesting series of a measured value: the
records of a flow query are counted, or a field of them is summed, over a range, and the results
are summed by the labels of the aggregation.
-/

namespace FlowConsole.LogQL

/-- A query for metrics of flows. -/
structure TopologyQuery where
  flow : FlowQuery
  metric : Metric.Options

namespace TopologyQuery

/-- The query of the options, without matches. Records must have the field of a custom aggregation
and the field of the measured value; their number is not limited. -/
def ofOptions (catalog : Catalog) (options : FlowOptions) (metric : Metric.Options) :
    TopologyQuery :=
  let flow := FlowQuery.ofOptions catalog { options with limit := none }
  let aggregated := if metric.aggregate.custom then [metric.aggregate.key] else []
  ⟨(aggregated ++ metric.measure.requiredField?.toList).foldl FlowQuery.requireField flow, metric⟩

/-- The query of the options and the matches of a group. -/
def ofGroup (catalog : Catalog) (options : FlowOptions) (metric : Metric.Options)
    (g : Filter.Group) : Except QueryError TopologyQuery := do
  let q := ofOptions catalog options metric
  let flow ← g.foldlM FlowQuery.addMatch q.flow
  return { q with flow }

/-- The stage that takes the measured value from the records, unless they are counted. -/
def unwrapStage (metric : Metric.Options) : String :=
  if metric.effectiveFunction = .count then ""
  else "|unwrap " ++ metric.measure.name ++ "|__error__=\"\""

/-- The text of the query. -/
def body (q : TopologyQuery) : Except QueryError String := do
  let f := q.metric.effectiveFunction
  let records ← q.flow.body true
  return f.topOperator ++ "(" ++ toString q.metric.top ++ ",sum by(" ++
    q.metric.aggregate.joined ++ ")(" ++ f.rangeFunction ++ "(" ++
    (f.quantile?.map (· ++ ",")).getD "" ++ records ++ unwrapStage q.metric ++
    "[" ++ q.metric.rateInterval ++ "])))"

/-- The address that answers the query, at the store whose address starts with `base`. -/
def url (q : TopologyQuery) (base : String) : Except QueryError String := do
  let body ← q.body
  return queryRange (Text.withoutTrailingSlashes base) ++ body ++
    windowParameters q.flow.options.start q.flow.options.finish ++
    parameter "limit" (some (toString q.metric.top)) ++ parameter "step" (some q.metric.step)

end TopologyQuery

end FlowConsole.LogQL
