import FlowConsole.QueryError

/-!
# Functions over a range

How the values of a range are summarised in one number.
-/

namespace FlowConsole.Metric

/-- A function over the values of a range. -/
inductive Function
  | count
  | sum
  | avg
  | min
  | max
  | p90
  | p99
  | rate
  deriving DecidableEq, Repr

namespace Function

/-- All functions. -/
def all : List Function := [.count, .sum, .avg, .min, .max, .p90, .p99, .rate]

/-- The word for a function in requests. -/
def word : Function → String
  | .count => "count"
  | .sum => "sum"
  | .avg => "avg"
  | .min => "min"
  | .max => "max"
  | .p90 => "p90"
  | .p99 => "p99"
  | .rate => "rate"

/-- The function of a word of a request. -/
def parse (word : String) : Except QueryError Function :=
  (all.find? fun f => f.word == word).elim (.error (.unsupported (.function word))) .ok

/-- The quantile that the function computes. -/
def quantile? : Function → Option String
  | .p90 => some "0.9"
  | .p99 => some "0.99"
  | _ => none

/-- The operator that keeps the most interesting series. -/
def topOperator (f : Function) : String := if f = .min then "bottomk" else "topk"

/-- The name of the function over a range of log lines. -/
def rangeFunction : Function → String
  | .count => "count_over_time"
  | .sum => "sum_over_time"
  | .avg => "avg_over_time"
  | .min => "min_over_time"
  | .max => "max_over_time"
  | .p90 | .p99 => "quantile_over_time"
  | .rate => "rate"

end Function

end FlowConsole.Metric
