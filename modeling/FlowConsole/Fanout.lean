import FlowConsole.Failure
import FlowConsole.Store.Basic

/-!
# Fan-out

All queries of a request are sent at once. If all succeed, their answers are merged in the order of
the queries, whatever the order in which they came; the first failure that comes in is the failure
of the request, and the queries that have not ended by then are given up.
-/

namespace FlowConsole

/-- A query and the store that it is for. -/
structure StoreQuery where
  source : DataSource
  url : String
  deriving DecidableEq, Repr

/-- Which stores are configured. -/
structure Stores where
  loki : Bool := false
  prom : Bool := false
  deriving DecidableEq, Repr

/-- The store is configured. -/
def Stores.has (s : Stores) : DataSource → Bool
  | .loki => s.loki
  | .prom => s.prom

namespace Fanout

/-- How a query ends. -/
inductive Ending
  | replied (reply : Store.Reply)
  | failed (error : Store.Error)
  | cancelled
  deriving DecidableEq, Repr

/-- What a store replied. -/
def Ending.reply (source : DataSource) : Ending → Except Failure Store.Reply
  | .replied reply => .ok reply
  | .failed error => .error (.store source error)
  | .cancelled => .error (.unavailable .cancelled)

/-- What a store answered. -/
def Ending.answer (source : DataSource) (e : Ending) : Except Failure Response.Answer := do
  let reply ← e.reply source
  if reply.isSuccess then
    (Response.Answer.decode reply.body).mapError fun e => .internal (.undecodable source e)
  else throw (.refused source reply.status reply.text)

/-- The endings of queries as they come in, each with the index of its query. -/
abbrev Endings := List (Nat × Ending)

/-- Why the queries are not sent. -/
def rejection? (stores : Stores) (queries : List StoreQuery) : Option Request.Rejection :=
  if queries.isEmpty then some .noQueries
  else
    (queries.find? fun q => !stores.has q.source).map fun q => .notConfigured q.source

/-- Notes the answers by the indices of their queries, up to the first failure. -/
def collect (queries : List StoreQuery) (answers : List (Option Response.Answer)) :
    Endings → Except Failure (List (Option Response.Answer))
  | [] => .ok answers
  | (i, ending) :: rest =>
    match queries[i]? with
    | none => collect queries answers rest
    | some q =>
      match ending.answer q.source with
      | .ok a => collect queries (answers.set i (some a)) rest
      | .error e => .error e

/-- The response to the queries, or the failure that comes first. -/
def fetch (stores : Stores) (queries : List StoreQuery) (endings : Endings)
    (merger : Merge.Merger) : Except Failure Merge.Response := do
  match rejection? stores queries with
  | some reason => throw (.rejected reason)
  | none =>
    let answers ← collect queries (queries.map fun _ => none) endings
    let merged ← (merger.addAll (answers.filterMap id)).mapError fun e => .internal (.merge e)
    return merged.response

end Fanout

end FlowConsole
