import FlowConsole.Export.Csv
import FlowConsole.Service.Planning
import FlowConsole.Service.Task

/-!
# Routes

Which requests the service answers, and how.
-/

namespace FlowConsole.Service

/-- The resources of the service. -/
inductive Route
  | status
  | frontendConfig
  | lokiReady
  | records
  | recordTable
  | metrics
  | alertRules
  | alertSilences
  deriving DecidableEq, Repr

namespace Route

/-- The resource at a path. -/
def ofPath? (path : String) : Option Route :=
  List.lookup path
    [("/api/status", .status),
      ("/api/frontend-config", .frontendConfig),
      ("/api/loki/ready", .lokiReady),
      ("/api/loki/flow/records", .records),
      ("/api/loki/flow/export", .recordTable),
      ("/api/flow/metrics", .metrics),
      ("/api/alerts/rules", .alertRules),
      ("/api/alerts/silences", .alertSilences)]

/-- The names of the parameters of a resource. -/
def parameterNames : Route → List String
  | .records | .recordTable => Request.Records.parameterNames
  | .metrics => Request.Metrics.parameterNames
  | _ => []

end Route

/-- The time at which a request is answered, in milliseconds since the epoch. -/
structure Clock where
  millis : Int

/-- The time in whole seconds. -/
def Clock.seconds (c : Clock) : Int := c.millis / 1000

/-- The response with merged answers. -/
def mergedResponse (now : Clock) (r : Merge.Response) : Http.Response :=
  .json 200 (.ofEntries (r.members ++ [("unixTimestamp", .ofInt now.millis)]))

/-- The response with the readiness of the log store, which must reply with success and say so. -/
def readyResponse (r : Store.Reply) : Except Failure Http.Response :=
  if r.isSuccess && Text.occursIn "ready".toList r.text.toList then .ok (.text 200 r.text)
  else .error (.unavailable (.notReady r.status r.text))

namespace State

/-- Tells whether the log store is ready. The token of the user is not passed on. -/
def lokiReady (s : State) : Except Failure Task := do
  Request.accept (s.checkStore .loki)
  let url := Text.withoutTrailingSlashes s.config.loki.statusUrl ++ "/ready"
  return .ofCall ⟨.loki, url, none⟩ readyResponse

/-- Fetches the records that the parameters ask for. -/
def fetchRecords (s : State) (now : Clock) (token : Option String) (ps : Request.Parameters)
    (f : Merge.Response → Http.Response) : Except Failure Task := do
  let r ← Request.Records.read ps now.seconds
  let queries ← s.planRecords r
  let limit := r.options.limit.getD Request.Parameters.defaultLimit
  return .ofQueries s.stores queries token (.start .streams limit) f

/-- Fetches records. -/
def records (s : State) (now : Clock) (r : Http.Request) : Except Failure Task := do
  let token ← s.authorize r
  s.fetchRecords now token r.parameters (mergedResponse now)

/-- Fetches records as a table. -/
def exportRecords (s : State) (now : Clock) (r : Http.Request) : Except Failure Task := do
  let token ← s.authorize r
  Request.accept (Request.Records.checkFormat r.parameters)
  s.fetchRecords now token r.parameters fun response =>
    .csv (Export.csv response.result (Request.Records.columns? r.parameters))

/-- Fetches metrics. -/
def metrics (s : State) (now : Clock) (r : Http.Request) : Except Failure Task := do
  let token ← s.authorize r
  let m ← Request.Metrics.read r.parameters now.seconds
  let queries ← s.planMetrics m
  return .ofQueries s.stores queries token (.start .matrix m.metric.top) (mergedResponse now)

/-- Passes on what a store says about alerts. -/
def relay (s : State) (r : Http.Request) (isConfigured : Bool) (cause : Unavailable)
    (callee : Callee) (url : String) : Except Failure Task := do
  let token ← s.authorize r
  if !isConfigured then throw (.unavailable cause)
  return .ofCall ⟨callee, url, token⟩ fun reply => .ok (.relayed reply)

/-- Passes on the alert rules of the metric store. -/
def alertRules (s : State) (r : Http.Request) : Except Failure Task :=
  s.relay r s.stores.prom (.disabled .prom) .prom
    (Text.withoutTrailingSlashes s.config.prometheus.url ++ "/api/v1/rules")

/-- Passes on the silences of the alert manager. -/
def alertSilences (s : State) (r : Http.Request) : Except Failure Task :=
  s.relay r s.alertManager .noAlertManager .alertManager
    (Text.withoutTrailingSlashes s.config.prometheus.alertManagerUrl ++ "/api/v2/silences")

/-- The task of a resource. -/
def visit (s : State) (now : Clock) (r : Http.Request) : Route → Except Failure Task
  | .status => .ok (.done (.json 200 (.ofEntries [("status", .string "OK")])))
  | .frontendConfig => .ok (.done (.json 200 s.config.frontend.toJson))
  | .lokiReady => s.lokiReady
  | .records => s.records now r
  | .recordTable => s.exportRecords now r
  | .metrics => s.metrics now r
  | .alertRules => s.alertRules r
  | .alertSilences => s.alertSilences r

/-- The response to a request that gives a parameter twice. -/
def repeatedParameter (name : String) : Http.Response :=
  .text 400 ("Failed to deserialize query string: duplicate field `" ++ name ++ "`")

/-- The task of a request. Resources can only be read; of a request for the head alone, the body of
the response is dropped. -/
def handle (s : State) (now : Clock) (r : Http.Request) : Task :=
  match Route.ofPath? r.path with
  | none => .done { status := 404 }
  | some route =>
    if r.method ≠ "GET" ∧ r.method ≠ "HEAD" then .done { status := 405 }
    else
      let task := match Request.Parameters.repeated? route.parameterNames r.parameters with
        | some name => .done (repeatedParameter name)
        | none => Task.ofExcept (s.visit now r route)
      if r.method = "HEAD" then
        { task with finish := fun endings => .ok { task.response endings with body := .empty } }
      else task

end State

end FlowConsole.Service
