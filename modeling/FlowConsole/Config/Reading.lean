import FlowConsole.Config.Basic
import FlowConsole.Config.Timeout
import FlowConsole.Yaml.Access
import FlowConsole.Yaml.ToJson

/-!
# Reading configurations

A configuration is a document of sections. A setting that is left out has its default; one that is
not known is passed over; one that is given twice, or has a value of another kind, is a fault of the
whole.
-/

namespace FlowConsole.Config

open Yaml (Node NumberedNode Reading Section)

/-- The largest port, an unsigned integer of 16 bits. -/
def maxPort : Nat := 65535

/-- The longest age in seconds, an unsigned integer of 64 bits. -/
def maxAge : Nat := 18446744073709551615

/-- A timeout in nanoseconds. -/
def readTimeout (n : NumberedNode) : Reading Nat := do Timeout.parse? (← n.text)

/-- Where the service listens. -/
def Server.ofNode (n : NumberedNode) : Reading Server := do
  let s ← Section.ofNode
    ["port", "metricsPort", "certPath", "keyPath", "corsOrigin", "corsMethods", "corsHeaders",
      "corsMaxAge"] n
  let port ← s.get "port" ({} : Server).port (Node.natural maxPort)
  let metricsPort ← s.get? "metricsPort" (Node.natural maxPort)
  let certPath ← s.get? "certPath" Node.text
  let keyPath ← s.get? "keyPath" Node.text
  let corsOrigin ← s.get? "corsOrigin" Node.text
  let corsMethods ← s.get? "corsMethods" Node.text
  let corsHeaders ← s.get? "corsHeaders" Node.text
  let corsMaxAge ← s.get? "corsMaxAge" (Node.natural maxAge)
  return { port, metricsPort, certPath, keyPath, corsOrigin, corsMethods, corsHeaders, corsMaxAge }

/-- The check of a word. -/
def AuthCheck.ofWord? (word : String) : Option AuthCheck :=
  List.lookup word
    [("auto", .auto), ("authenticated", .authenticated), ("admin", .admin), ("none", .none)]

/-- The log store. -/
def Loki.ofNode (n : NumberedNode) : Reading Loki := do
  let s ← Section.ofNode
    ["disabled", "url", "statusUrl", "labels", "fieldsType", "fieldsFormat", "timeout", "tenantID",
      "skipTls", "caPath", "forwardUserToken", "authCheck"] n
  let disabled ← s.get "disabled" false Node.bool
  let url ← s.get "url" "" Node.text
  let readyUrl ← s.get? "statusUrl" Node.text
  let labels ← s.get "labels" [] (Node.list Node.text)
  let fieldTypes ← s.get "fieldsType" [] Node.texts
  let fieldFormats ← s.get "fieldsFormat" [] Node.texts
  let timeout ← s.get "timeout" defaultTimeout readTimeout
  let tenant ← s.get? "tenantID" Node.text
  let skipTls ← s.get "skipTls" false Node.bool
  let caPath ← s.get? "caPath" Node.text
  let forwardUserToken ← s.get "forwardUserToken" false Node.bool
  let authCheck ← s.get "authCheck" AuthCheck.auto fun n => do AuthCheck.ofWord? (← n.word)
  return {
    disabled, url, readyUrl, labels, fieldTypes, fieldFormats, timeout, tenant, skipTls, caPath,
    forwardUserToken, authCheck }

/-- The kind of a metric. -/
def readKind? (word : String) : Option PromQL.MetricKind :=
  List.lookup word [("counter", .counter), ("histogram", .histogram)]

/-- The direction that a metric counts. -/
def readDirection? (name : String) : Option Direction :=
  List.lookup name
    [("Ingress", .ingress), ("Egress", .egress), ("Inner", .inner), ("Any", .any)]

/-- A metric, whose name, type and measured value must be given. -/
def readMetric (n : NumberedNode) : Reading PromQL.MetricInfo := do
  let s ← Section.ofNode ["enabled", "name", "type", "valueField", "direction", "labels"] n
  let enabled ← s.get "enabled" true Node.bool
  let name ← s.need "name" Node.text
  let kind ← s.need "type" fun n => do readKind? (← n.word)
  let measure ← s.need "valueField" fun n => do Metric.Measure.ofName? (← n.word)
  let direction ← s.get "direction" Direction.any fun n => do readDirection? (← n.word)
  let labels ← s.get "labels" [] (Node.list Node.text)
  return { enabled, name, kind, measure, direction, labels := sortedNames labels }

/-- The address of the alert manager. -/
def readAlertManager (n : NumberedNode) : Reading String := do
  let s ← Section.ofNode ["url"] n
  s.get "url" "" Node.text

/-- The metric store. -/
def Prometheus.ofNode (n : NumberedNode) : Reading Prometheus := do
  let s ← Section.ofNode
    ["url", "timeout", "skipTls", "caPath", "forwardUserToken", "tokenPath", "metrics",
      "alertManager"] n
  let url ← s.get "url" "" Node.text
  let timeout ← s.get "timeout" defaultTimeout readTimeout
  let skipTls ← s.get "skipTls" false Node.bool
  let caPath ← s.get? "caPath" Node.text
  let forwardUserToken ← s.get "forwardUserToken" false Node.bool
  let tokenPath ← s.get? "tokenPath" Node.text
  let metrics ← s.get "metrics" [] (Node.list readMetric)
  let alertManagerUrl ← s.get "alertManager" "" readAlertManager
  return {
    url, timeout, skipTls, caPath, forwardUserToken, tokenPath, metrics, alertManagerUrl }

/-- What the console does with flows that both ends report. -/
def Deduper.ofNode (n : NumberedNode) : Reading Deduper := do
  let s ← Section.ofNode ["mark", "merge"] n
  let mark ← s.get "mark" false Node.bool
  let merge ← s.get "merge" false Node.bool
  return { mark, merge }

/-- A field, whose name must be given. -/
def FieldInfo.ofNode (n : NumberedNode) : Reading FieldInfo := do
  let s ← Section.ofNode ["name", "type", "description", "format"] n
  let name ← s.need "name" Node.text
  let type ← s.get? "type" Node.text
  let description ← s.get? "description" Node.text
  let format ← s.get? "format" Node.text
  return { name, type, description, format }

/-- The settings of the console that the service reads. -/
def Frontend.known : List String := ["deduper", "fields"]

/-- How deeply the settings that are only passed on may be nested: by two less than a document. -/
def Frontend.maxDepth : Nat := 126

/-- The settings of the console. -/
def Frontend.ofNode (n : NumberedNode) : Reading Frontend := do
  let s ← Section.ofNode known n
  let deduper ← s.get "deduper" {} Deduper.ofNode
  let fields ← s.get "fields" [] (Node.list FieldInfo.ofNode)
  let extra ← (s.filter fun m => !known.contains m.1).mapM fun (key, value) => do
    return (key, ← value.toJson maxDepth)
  return { deduper, fields, extra := Dictionary.ofEntries extra }

/-- The settings of a document. -/
def ofNode (n : NumberedNode) : Reading Config := do
  let s ← Section.ofNode ["server", "loki", "prometheus", "frontend"] n
  let server ← s.get "server" {} Server.ofNode
  let loki ← s.get "loki" {} Loki.ofNode
  let prometheus ← s.get "prometheus" {} Prometheus.ofNode
  let frontend ← s.get "frontend" {} Frontend.ofNode
  return { server, loki, prometheus, frontend }

/-- Reads a configuration that the service can run with. -/
def parse (text : String) : Except Fault Config :=
  match (Yaml.Document.read? text.toList).bind (·.run? ofNode) with
  | none => .error .malformed
  | some c =>
    match c.fault? with
    | some fault => .error fault
    | none => .ok c

/-- Reads the configuration of a file. `read` gives the text of a file or the reason why it cannot
be read. -/
def load (read : String → Except String String) (path : String) : Except Fault Config :=
  match read path with
  | .error reason => .error (.unreadable path reason)
  | .ok text => parse text

end FlowConsole.Config
