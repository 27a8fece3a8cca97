/-!
# Queries that cannot be built

The reasons why a filter, a keyword or an option has no query.
-/

namespace FlowConsole

/-- A word or a combination that queries do not know. -/
inductive Unsupported
  | recordType (word : String)
  | packetLoss (word : String)
  | measure (word : String)
  | function (word : String)
  | emptyAggregate
  | aggregateGroup (word : String)
  | histogramFunction (metric : String)
  | atLeastLabel (key : String)
  deriving DecidableEq, Repr

/-- The wording of an unsupported request. -/
def Unsupported.message : Unsupported → String
  | .recordType word => "unknown record type `" ++ word ++ "`"
  | .packetLoss word => "unknown packet loss value `" ++ word ++ "`"
  | .measure word => "unknown metric type `" ++ word ++ "`"
  | .function word => "unknown function `" ++ word ++ "`"
  | .emptyAggregate => "aggregateBy cannot be empty"
  | .aggregateGroup word => "unknown group `" ++ word ++ "`"
  | .histogramFunction metric =>
    "histogram metric " ++ metric ++ " cannot be used with this function"
  | .atLeastLabel key => "`" ++ key ++ ">=` cannot be expressed with prometheus labels"

/-- Why there is no query. -/
inductive QueryError
  | noSelector
  | invalidNumber (key value : String)
  | notANumber (value : String)
  | unsupported (what : Unsupported)
  deriving DecidableEq, Repr

/-- The wording of an error. -/
def QueryError.message : QueryError → String
  | .noSelector => "invalid query: at least one stream selector is required"
  | .invalidNumber key value => "invalid number for `" ++ key ++ "`: " ++ value
  | .notANumber value => "value must be a positive integer: " ++ value
  | .unsupported what => what.message

end FlowConsole
