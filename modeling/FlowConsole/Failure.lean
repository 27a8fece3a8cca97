import FlowConsole.Config.Basic
import FlowConsole.Filter.Reading
import FlowConsole.Merge.Basic
import FlowConsole.QueryError
import FlowConsole.Request.Rejection
import FlowConsole.Response.Decoding

/-!
# Failures

Everything that a request can fail with, its status code and its wording. What the client did wrong
is answered with 400, what may pass with 503, the rest with 500; a store that answers with an error
passes on its own status.
-/

namespace FlowConsole

/-- Why the service cannot answer for the time being. -/
inductive Unavailable
  | unauthenticated
  | cancelled
  | disabled (source : DataSource)
  | noAlertManager
  | notReady (status : Nat) (text : String)
  | other (text : String)
  deriving DecidableEq, Repr

/-- The wording of a cause. -/
def Unavailable.message : Unavailable → String
  | .unauthenticated => "user is not authenticated"
  | .cancelled => "request cancelled"
  | .disabled source => source.title ++ " datasource is disabled"
  | .noAlertManager => "alertmanager is not configured"
  | .notReady status text => "loki is not ready (" ++ toString status ++ "): " ++ Text.trim text
  | .other text => text

/-- What went wrong inside the service. -/
inductive InternalFault
  | undecodable (source : DataSource) (error : Response.Error)
  | merge (error : Merge.Error)
  | other (text : String)
  deriving DecidableEq, Repr

/-- The wording of a fault. -/
def InternalFault.message : InternalFault → String
  | .undecodable source error => "cannot decode " ++ source.name ++ " response: " ++ error.message
  | .merge error => error.message
  | .other text => text

/-- Why a request has no answer. -/
inductive Failure
  | rejected (reason : Request.Rejection)
  | filter (error : Filter.Error)
  | query (error : QueryError)
  /-- A store answered with an error. -/
  | refused (source : DataSource) (status : Nat) (text : String)
  | unavailable (cause : Unavailable)
  /-- A store gave no answer. -/
  | store (source : DataSource) (error : Store.Error)
  | internal (fault : InternalFault)
  | config (fault : Config.Fault)
  deriving DecidableEq

namespace Failure

/-- A status code that can be sent. -/
def isStatus (status : Nat) : Bool := 100 ≤ status && status ≤ 999

/-- The status code of an answer that passes on the status of a store. -/
def relayedStatus (status : Nat) : Nat := if isStatus status then status else 502

/-- The status code of a failure. -/
def status : Failure → Nat
  | .rejected _ | .filter _ | .query _ => 400
  | .refused _ status _ => relayedStatus status
  | .unavailable _ => 503
  | .store _ error => if error.isTransient then 503 else 500
  | .internal _ | .config _ => 500

/-- The wording of a failure to fetch data. -/
def whileFetching (source : DataSource) (text : String) : String :=
  "error while fetching data from " ++ source.name ++ ": " ++ text

/-- The wording of a failure. -/
def message : Failure → String
  | .rejected reason => reason.message
  | .filter error => error.message
  | .query error => error.message
  | .refused source _ text => whileFetching source text
  | .unavailable cause => cause.message
  | .store _ (.invalidUrl url reason) => (Store.Error.invalidUrl url reason).message
  | .store source error => whileFetching source error.message
  | .internal fault => fault.message
  | .config fault => "invalid configuration: " ++ fault.message

end Failure

end FlowConsole
