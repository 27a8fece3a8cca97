import FlowConsole.Config.Reading
import FlowConsole.Fanout
import FlowConsole.Http.Message
import FlowConsole.Store.Client

/-!
# The state of the service

What the service works with: its configuration and the stores it can ask. None of it changes while
requests are answered.
-/

namespace FlowConsole.Service

/-- The configuration and which stores can be asked. -/
structure State where
  config : Config
  stores : Stores
  alertManager : Bool

/-- The clients of the stores that are configured. -/
structure Clients where
  loki : Option Store.Client
  prom : Option Store.Client
  alertManager : Option Store.Client

/-- A client made from options, if there is to be one. -/
def openClient (files : Store.Files) (isWanted : Bool) (o : Store.Options) :
    Except Failure (Option Store.Client) :=
  if isWanted then
    ((Store.Client.ofOptions files o).map some).mapError fun e => .config (.store e)
  else .ok none

/-- The clients of a configuration: a store has one if it is enabled, the alert manager if it has an
address. -/
def Clients.ofConfig (files : Store.Files) (c : Config) : Except Failure Clients := do
  let loki ← openClient files c.loki.isEnabled c.loki.storeOptions
  let prom ← openClient files c.prometheus.isEnabled c.prometheus.storeOptions
  let alertManager ←
    openClient files (c.prometheus.alertManagerUrl ≠ "") c.prometheus.storeOptions
  return { loki, prom, alertManager }

namespace State

/-- The state of a configuration all of whose stores can be asked. -/
def ofConfig (c : Config) : State where
  config := c
  stores := { loki := c.loki.isEnabled, prom := c.prometheus.isEnabled }
  alertManager := c.prometheus.alertManagerUrl ≠ ""

/-- The state of a configuration and its clients. -/
def ofClients (c : Config) (clients : Clients) : State where
  config := c
  stores := { loki := clients.loki.isSome, prom := clients.prom.isSome }
  alertManager := clients.alertManager.isSome

/-- A store that must be configured. -/
def checkStore (s : State) (source : DataSource) : Except Request.Rejection Unit :=
  if s.stores.has source then .ok () else .error (.notConfigured source)

/-- The address of the log store, if it can be asked. -/
def lokiUrl (s : State) : Except Request.Rejection String :=
  if s.stores.loki then .ok s.config.loki.url else .error (.disabled .loki)

/-- The token of a header: visible ASCII characters, blanks and tabs, and at least one. -/
def readToken? (value : String) : Option String :=
  if value ≠ "" ∧ (value.toList.all fun c => c == '\t' || (' ' ≤ c && c ≤ '~')) then some value
  else none

/-- The token that a request carries, if it must carry one. -/
def authorize (s : State) (r : Http.Request) : Except Failure (Option String) :=
  match (r.header? "Authorization").bind readToken? with
  | some token => .ok (some token)
  | none =>
    if s.config.loki.requiresToken then .error (.unavailable .unauthenticated) else .ok none

end State

end FlowConsole.Service
