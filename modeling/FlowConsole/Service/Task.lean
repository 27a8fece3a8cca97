import FlowConsole.Fanout
import FlowConsole.Http.Message

/-!
# Tasks

A request is answered in two steps. The first decides which calls are made; the second makes the
response from how they end. The calls themselves lie between the two.
-/

namespace FlowConsole.Service

/-- Who is called. -/
inductive Callee
  | loki
  | prom
  | alertManager
  deriving DecidableEq, Repr

/-- The store that failures of a call are told of. -/
def Callee.source : Callee → DataSource
  | .loki => .loki
  | .prom | .alertManager => .prom

/-- The callee of a query. -/
def Callee.ofSource : DataSource → Callee
  | .loki => .loki
  | .prom => .prom

/-- A call, with the token of the user. The query of its address is raw text. -/
structure Call where
  callee : Callee
  url : String
  token : Option String
  deriving DecidableEq, Repr

/-- The calls that are made for a request, and the response that follows from how they end. -/
structure Task where
  calls : List Call
  finish : Fanout.Endings → Except Failure Http.Response

namespace Task

/-- A response without any call. -/
def done (r : Http.Response) : Task := ⟨[], fun _ => .ok r⟩

/-- A failure without any call. -/
def failed (f : Failure) : Task := ⟨[], fun _ => .error f⟩

/-- The task, or the failure in place of one. -/
def ofExcept : Except Failure Task → Task
  | .ok t => t
  | .error f => failed f

/-- A call whose reply makes the response. -/
def ofCall (call : Call) (f : Store.Reply → Except Failure Http.Response) : Task where
  calls := [call]
  finish endings :=
    let ending := ((endings.head?).map Prod.snd).getD .cancelled
    (ending.reply call.callee.source).bind f

/-- Queries whose answers are merged and make the response. -/
def ofQueries (stores : Stores) (queries : List StoreQuery) (token : Option String)
    (merger : Merge.Merger) (f : Merge.Response → Http.Response) : Task where
  calls :=
    if (Fanout.rejection? stores queries).isSome then []
    else queries.map fun q => ⟨.ofSource q.source, q.url, token⟩
  finish endings := (Fanout.fetch stores queries endings merger).map f

/-- The response to the request. -/
def response (t : Task) (endings : Fanout.Endings) : Http.Response :=
  match t.finish endings with
  | .ok r => r
  | .error f => .ofFailure f

end Task

end FlowConsole.Service
