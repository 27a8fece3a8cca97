import FlowConsole.LogQL.Label
import FlowConsole.PromQL.Inventory

/-!
# Metric queries

The query of a metric for a group of matches. Metrics of one direction are asked without the
direction match, since all they count has that direction.
-/

namespace FlowConsole.PromQL

/-- The window of a range query, in seconds since the epoch. -/
structure Window where
  start : Int
  finish : Int
  deriving DecidableEq, Repr

/-- The comparison of a match, for a metric of the given direction. -/
def matcher? (direction : Direction) (m : Filter.Match) :
    Except QueryError (Option LogQL.LabelFilter) :=
  if m.atLeast then .error (.unsupported (.atLeastLabel m.key))
  else if m.key = Field.flowDirection ∧ direction ≠ .any then .ok none
  else if m.regex then .ok (some (.regex m.key m.values m.negated))
  else .ok (some (.ofAtoms m.key m.atoms m.negated))

/-- The comparisons of a group, for a metric of the given direction. -/
def matchers (direction : Direction) (g : Filter.Group) :
    Except QueryError (List LogQL.LabelFilter) :=
  (g.mapM (matcher? direction)).map fun fs => fs.filterMap id

/-- The text of the comparisons; nothing at all for none of them. -/
def selector (fs : List LogQL.LabelFilter) : String :=
  if fs.isEmpty then ""
  else "\x7b" ++ Text.join "," (fs.map LogQL.LabelFilter.render) ++ "\x7d"

/-- The rate of a series, summed by the labels. -/
def summedRate (labels series selector interval : String) : String :=
  "sum by(" ++ labels ++ ")(rate(" ++ series ++ selector ++ "[" ++ interval ++ "]))"

/-- The expression that the function applies to the metric. -/
def expression (m : MetricInfo) (selector : String) (options : Metric.Options) :
    Except QueryError String :=
  let f := options.effectiveFunction
  let labels := options.aggregate.joined
  match m.kind, f.quantile? with
  | .counter, _ => .ok (summedRate labels m.name selector options.rateInterval)
  | .histogram, some quantile =>
    .ok ("histogram_quantile(" ++ quantile ++ "," ++
      summedRate (labels ++ ",le") (m.name ++ "_bucket") selector options.rateInterval ++ ")")
  | .histogram, none =>
    if f = .avg then
      .ok ("(" ++ summedRate labels (m.name ++ "_sum") selector options.rateInterval ++ "/" ++
        summedRate labels (m.name ++ "_count") selector options.rateInterval ++ ")")
    else .error (.unsupported (.histogramFunction m.name))

/-- The address that answers the query, at the store whose address starts with `base`. -/
def url (base : String) (m : MetricInfo) (g : Filter.Group) (options : Metric.Options)
    (window : Window) : Except QueryError String := do
  let fs ← matchers m.direction g
  let inner ← expression m (selector fs) options
  return Text.withoutTrailingSlashes base ++ "/api/v1/query_range?query=" ++
    options.effectiveFunction.topOperator ++ "(" ++ toString options.top ++ "," ++ inner ++
    options.measure.scale?.getD "" ++ ")&start=" ++ toString window.start ++ "&end=" ++
    toString window.finish ++ "&step=" ++ options.step

end FlowConsole.PromQL
