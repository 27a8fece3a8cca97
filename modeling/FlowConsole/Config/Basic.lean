import FlowConsole.Json.Basic
import FlowConsole.Metric.Measure
import FlowConsole.PromQL.Inventory
import FlowConsole.Store.Basic

/-!
# Configuration

The settings of the service, by section, with what they are by default, and what follows from them:
why the service cannot be started with them, the options of the stores, the catalog of the fields
and the inventory of the metrics.
-/

namespace FlowConsole.Config

/-- What is wrong with a configuration. -/
inductive Fault
  /-- The file could not be read. -/
  | unreadable (path reason : String)
  /-- The text is no YAML, or a setting has not the type it should have. -/
  | malformed
  | missingLokiUrl
  | missingLokiLabels
  /-- A metric has an empty name. -/
  | unnamedMetric (measure : Metric.Measure)
  /-- The client of a store could not be made. -/
  | store (error : Store.Error)
  | other (text : String)
  deriving DecidableEq, Repr

/-- The wording of a fault. -/
def Fault.message : Fault → String
  | .unreadable path reason => "cannot read " ++ path ++ ": " ++ reason
  | .malformed => "malformed settings"
  | .missingLokiUrl => "loki.url is required"
  | .missingLokiLabels => "loki.labels must not be empty"
  | .unnamedMetric measure =>
    "prometheus metric with value field " ++ measure.name ++ " has no name"
  | .store error => error.message
  | .other text => text

/-- Where the service listens. -/
structure Server where
  port : Nat := 9001
  metricsPort : Option Nat := none
  certPath : Option String := none
  keyPath : Option String := none
  corsOrigin : Option String := none
  corsMethods : Option String := none
  corsHeaders : Option String := none
  corsMaxAge : Option Nat := none
  deriving DecidableEq, Repr

/-- Which requests must carry the token of a user. -/
inductive AuthCheck
  /-- All, if tokens are forwarded. -/
  | auto
  | authenticated
  | admin
  | none
  deriving DecidableEq, Repr

/-- The nanoseconds that a request to a store may take by default. -/
def defaultTimeout : Nat := 30000000000

/-- The log store. -/
structure Loki where
  disabled : Bool := false
  url : String := ""
  readyUrl : Option String := none
  labels : List String := []
  fieldTypes : Dictionary String := []
  fieldFormats : Dictionary String := []
  timeout : Nat := defaultTimeout
  tenant : Option String := none
  skipTls : Bool := false
  caPath : Option String := none
  forwardUserToken : Bool := false
  authCheck : AuthCheck := .auto
  deriving DecidableEq, Repr

namespace Loki

/-- The log store is asked. -/
def isEnabled (l : Loki) : Bool := !l.disabled

/-- The address under which the store tells whether it is ready. -/
def statusUrl (l : Loki) : String := (l.readyUrl.filter fun url => url ≠ "").getD l.url

/-- Requests must carry the token of a user. -/
def requiresToken (l : Loki) : Bool :=
  match l.authCheck with
  | .auto => l.forwardUserToken
  | .authenticated | .admin => true
  | .none => false

/-- The options of the client of the log store. -/
def storeOptions (l : Loki) : Store.Options where
  timeout := l.timeout
  skipTls := l.skipTls
  caPath := l.caPath
  tenant := l.tenant
  forwardUserToken := l.forwardUserToken

end Loki

/-- The metric store and the alert manager beside it. -/
structure Prometheus where
  url : String := ""
  timeout : Nat := defaultTimeout
  skipTls : Bool := false
  caPath : Option String := none
  forwardUserToken : Bool := false
  tokenPath : Option String := none
  metrics : List PromQL.MetricInfo := []
  alertManagerUrl : String := ""
  deriving DecidableEq, Repr

namespace Prometheus

/-- The metric store is asked, as it has an address. -/
def isEnabled (p : Prometheus) : Bool := p.url ≠ ""

/-- The options of the clients of the metric store and of the alert manager. -/
def storeOptions (p : Prometheus) : Store.Options where
  timeout := p.timeout
  skipTls := p.skipTls
  caPath := p.caPath
  forwardUserToken := p.forwardUserToken
  tokenPath := p.tokenPath

end Prometheus

/-- What the console does with flows that both ends report. -/
structure Deduper where
  mark : Bool := false
  merge : Bool := false
  deriving DecidableEq, Repr

/-- A field as the console describes it. -/
structure FieldInfo where
  name : String
  type : Option String := none
  description : Option String := none
  format : Option String := none
  deriving DecidableEq, Repr

/-- The settings of the console, of which the service reads only some. -/
structure Frontend where
  deduper : Deduper := {}
  fields : List FieldInfo := []
  /-- The settings that are only passed on. -/
  extra : Dictionary Json := []

/-- The object of a field; what is not described has no member. -/
def FieldInfo.toJson (f : FieldInfo) : Json :=
  let described := [("type", f.type), ("description", f.description), ("format", f.format)]
  .ofEntries (("name", .string f.name) ::
    described.filterMap fun e => e.2.map fun text => (e.1, Json.string text))

/-- The settings as the console asks for them. -/
def Frontend.toJson (f : Frontend) : Json :=
  .ofEntries (f.extra ++
    [("deduper", .ofEntries [("mark", .bool f.deduper.mark), ("merge", .bool f.deduper.merge)]),
      ("fields", .array (f.fields.map FieldInfo.toJson))])

end Config

/-- The settings of the service. -/
structure Config where
  server : Config.Server := {}
  loki : Config.Loki := {}
  prometheus : Config.Prometheus := {}
  frontend : Config.Frontend := {}

namespace Config

/-- The first reason for which the service cannot run with the settings. -/
def fault? (c : Config) : Option Fault :=
  if c.loki.isEnabled ∧ c.loki.url = "" then some .missingLokiUrl
  else if c.loki.isEnabled ∧ c.loki.labels = [] then some .missingLokiLabels
  else
    (c.prometheus.metrics.find? fun m => m.name = "").map fun m => .unnamedMetric m.measure

/-- The catalog of the labels, of the types and formats of the log store, and of the fields of the
console. -/
def catalog (c : Config) : Catalog :=
  let catalog :=
    (Catalog.ofLabels c.loki.labels).withFields c.loki.fieldTypes c.loki.fieldFormats
  c.frontend.fields.foldl (fun catalog f => catalog.register f.name f.type f.format) catalog

/-- The inventory of the configured metrics. -/
def inventory (c : Config) : PromQL.Inventory := .ofConfigured c.prometheus.metrics

end Config

end FlowConsole
