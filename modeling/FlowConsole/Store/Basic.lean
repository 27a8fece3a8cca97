import FlowConsole.Text.Utf8

/-!
# Stores

The two stores that answer the console's queries. The options of a store tell how it is asked: how
long to wait, what to trust, and which names and tokens go with a request. It replies, or something
goes wrong between the console and the store; the reasons are told by what lies outside: the
connection, the files of the configuration, the address.
-/

namespace FlowConsole

/-- A store of flow records or of metrics. -/
inductive DataSource
  | loki
  | prom
  deriving DecidableEq, Repr

namespace DataSource

/-- The short name, used in messages about its answers. -/
def name : DataSource → String
  | .loki => "loki"
  | .prom => "prom"

/-- The full name, used in messages about its configuration. -/
def title : DataSource → String
  | .loki => "loki"
  | .prom => "prometheus"

end DataSource

namespace Store

/-- The options of a client. -/
structure Options where
  /-- The nanoseconds that a request may take; with zero there is no limit. -/
  timeout : Nat := 0
  skipTls : Bool := false
  caPath : Option String := none
  tenant : Option String := none
  /-- The token of the user goes with the request. -/
  forwardUserToken : Bool := false
  /-- The file of the token that goes with a request without a user's token. -/
  tokenPath : Option String := none
  deriving DecidableEq, Repr

/-- A status code and a body. -/
structure Reply where
  status : Nat
  body : Utf8.Bytes
  deriving DecidableEq, Repr

namespace Reply

/-- The status code tells of success. -/
def isSuccess (r : Reply) : Bool := 200 ≤ r.status && r.status < 300

/-- The body as text; broken UTF-8 is replaced. -/
def text (r : Reply) : String := Utf8.decodeTolerant r.body

end Reply

/-- Why a store gave no answer. -/
inductive Error
  | timeout
  | connect (reason : String)
  | request (reason : String)
  | invalidUrl (url reason : String)
  | setup (reason : String)
  deriving DecidableEq, Repr

namespace Error

/-- The wording of an error. -/
def message : Error → String
  | .timeout => "request timed out"
  | .connect reason => "connection failed: " ++ reason
  | .request reason => "request failed: " ++ reason
  | .invalidUrl url reason => "invalid url `" ++ url ++ "`: " ++ reason
  | .setup reason => "client setup failed: " ++ reason

/-- The store could not be reached, which may change. -/
def isTransient : Error → Bool
  | .timeout | .connect _ => true
  | .request _ | .invalidUrl _ _ | .setup _ => false

end Error

end Store

end FlowConsole
