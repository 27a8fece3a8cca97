import FlowConsole.Duration
import FlowConsole.Store.Basic

/-!
# Rejected requests

The reasons why a request is refused before any store is asked, other than its filters and the
queries made from them.
-/

namespace FlowConsole.Request

/-- Why a text is no number of seconds that makes a duration. -/
inductive SecondsError
  | notInteger (error : Integer.Error)
  | notDuration (error : Duration.Error)
  deriving DecidableEq

/-- The wording of an error. -/
def SecondsError.message : SecondsError → String
  | .notInteger e => e.message
  | .notDuration e => e.message

/-- Why a request is refused. -/
inductive Rejection
  | unknownReporter (word : String)
  | unknownMatchMode (word : String)
  | unknownDataSource (word : String)
  | unknownLayer (word : String)
  | invalidInteger (field text : String) (error : Integer.Error)
  | outOfRange (field : String) (value : Int)
  | limitNotPositive (limit : Int)
  | invalidFlag (field text : String)
  /-- The text is neither a literal nor a number of seconds. -/
  | invalidDuration (field text : String) (literal : Duration.Error) (seconds : SecondsError)
  | missing (field : String)
  | invalidAggregate (key : String)
  | unsupportedFormat (format : String)
  | noQueries
  | notConfigured (source : DataSource)
  | disabled (source : DataSource)
  /-- No metric answers the filters; the named ones would if they were enabled. -/
  | unanswerable (filters : String) (disabledMetrics : List String)
  | other (text : String)
  deriving DecidableEq

/-- The wording of a rejection. -/
def Rejection.message : Rejection → String
  | .unknownReporter word => "unknown reporter `" ++ word ++ "`"
  | .unknownMatchMode word => "unknown match `" ++ word ++ "`"
  | .unknownDataSource word => "unknown dataSource `" ++ word ++ "`"
  | .unknownLayer word => "unknown layer `" ++ word ++ "`"
  | .invalidInteger field text error =>
    "invalid " ++ field ++ " `" ++ text ++ "`: " ++ error.message
  | .outOfRange field value => field ++ " `" ++ toString value ++ "` is out of range"
  | .limitNotPositive limit => "limit must be positive, got " ++ toString limit
  | .invalidFlag field text => "invalid " ++ field ++ " `" ++ text ++ "`"
  | .invalidDuration field text literal seconds =>
    "invalid " ++ field ++ " `" ++ text ++ "`: " ++ literal.message ++ "; " ++ seconds.message
  | .missing field => "missing " ++ field
  | .invalidAggregate key => "invalid aggregateBy `" ++ key ++ "`"
  | .unsupportedFormat format => "unsupported export format `" ++ format ++ "`"
  | .noQueries => "no queries could be executed"
  | .notConfigured source => source.name ++ " datasource is not configured"
  | .disabled source => source.title ++ " datasource is disabled"
  | .unanswerable filters [] => "no prometheus metric can answer filters `" ++ filters ++ "`"
  | .unanswerable filters metrics =>
    "filters `" ++ filters ++ "` require one of these metrics to be enabled: " ++
      Text.join ", " metrics
  | .other text => text

end FlowConsole.Request
