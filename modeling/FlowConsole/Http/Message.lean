import FlowConsole.Failure
import FlowConsole.Json.Printing
import FlowConsole.Store.Basic
import FlowConsole.Text.Percent

/-!
# HTTP messages

Requests and responses as far as the service looks at them and decides them.
-/

namespace FlowConsole.Http

/-- A request. -/
structure Request where
  method : String := "GET"
  path : String
  /-- The query string as it is written, empty if there is none. -/
  query : String := ""
  headers : List (String × String) := []
  deriving DecidableEq, Repr

namespace Request

/-- The path and the query of a target, which may be a whole URL. Fragments are dropped. -/
def readTarget (target : List Char) : List Char × List Char :=
  let target := (Text.cutOrAll '#' target).1
  let origin :=
    if target.head? = some '/' then target
    else
      match Text.cut? ':' target with
      | some (_, '/' :: '/' :: rest) => rest.dropWhile fun c => c != '/' && c != '?'
      | _ => target
  Text.cutOrAll '?' origin

/-- The request for a target. -/
def ofTarget (method target : String) (headers : List (String × String)) : Request :=
  let (path, query) := readTarget target.toList
  { method, path := String.ofList path, query := String.ofList query, headers }

/-- The value of a header, whose name is compared without regard to case. -/
def header? (r : Request) (name : String) : Option String :=
  (r.headers.find? fun h => h.1.toLower == name.toLower).map Prod.snd

/-- The parameters of the query string. -/
def parameters (r : Request) : List (String × String) := Percent.readForm r.query.toList

end Request

/-- The body of a response. -/
inductive Body
  | empty
  | text (content : String)
  | json (value : Json)
  | bytes (content : Utf8.Bytes)

/-- The bytes of a body. -/
def Body.toBytes : Body → Utf8.Bytes
  | .empty => []
  | .text content => Utf8.encode content
  | .json value => Utf8.encode value.render
  | .bytes content => content

/-- A response. -/
structure Response where
  status : Nat
  contentType : Option String := none
  disposition : Option String := none
  body : Body := .empty

namespace Response

/-- The content type of JSON. -/
def jsonType : String := "application/json"

/-- The content type of plain text. -/
def textType : String := "text/plain; charset=utf-8"

/-- A response with a JSON value. -/
def json (status : Nat) (value : Json) : Response :=
  { status, contentType := some jsonType, body := .json value }

/-- A response with a plain text. -/
def text (status : Nat) (content : String) : Response :=
  { status, contentType := some textType, body := .text content }

/-- A response with a table that is to be saved. -/
def csv (table : String) : Response :=
  { status := 200
    contentType := some "text/csv"
    disposition := some "attachment; filename=export.csv"
    body := .text table }

/-- What a store replied, passed on. -/
def relayed (r : Store.Reply) : Response :=
  { status := Failure.relayedStatus r.status
    contentType := some jsonType
    body := .bytes r.body }

/-- The response to a request that failed. -/
def ofFailure (f : Failure) : Response :=
  json f.status (.ofEntries [("message", .string f.message)])

end Response

end FlowConsole.Http
