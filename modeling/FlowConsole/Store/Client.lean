import FlowConsole.Store.Basic
import FlowConsole.Text.Character
import FlowConsole.Url.Reading

/-!
# Store clients

A client is made from the options of a store, for which it reads the files that they name, and makes
the requests that are sent to the store. The token of the user goes with a request if the store is
to have it and there is one, and otherwise the token of the service.
-/

namespace FlowConsole.Store

/-- What reading a file gives: its text or the reason why it cannot be read. -/
abbrev Files := String → Except String String

/-- A text that can be the value of a header: it has no control characters but tabs. -/
def isHeaderValue (text : String) : Bool :=
  text.toList.all fun c => c == '\t' || (' ' ≤ c && c != '\x7f')

/-- A client of a store. -/
structure Client where
  timeout : Nat
  skipTls : Bool
  /-- The tenant that goes with every request. -/
  tenant : Option String
  forwardUserToken : Bool
  /-- What authorises the service itself. -/
  serviceToken : Option String
  deriving DecidableEq, Repr

/-- A request to a store. -/
structure Request where
  url : Url
  tenant : Option String
  authorization : Option String
  deriving DecidableEq, Repr

namespace Client

/-- The tenant of the options, if it is not empty. -/
def readTenant (o : Options) : Except Error (Option String) :=
  match o.tenant.filter (· ≠ "") with
  | none => .ok none
  | some tenant =>
    if isHeaderValue tenant then .ok (some tenant)
    else .error (.setup "invalid tenant id: failed to parse header value")

/-- The text of a file; `kind` tells what it is for. -/
def readFile (files : Files) (kind path : String) : Except Error String :=
  (files path).mapError fun reason =>
    .setup ("cannot read " ++ kind ++ " file " ++ path ++ ": " ++ reason)

/-- What authorises the service: the token of its file, without the blanks around it. -/
def readServiceToken (files : Files) (o : Options) : Except Error (Option String) :=
  o.tokenPath.mapM fun path =>
    (readFile files "token" path).map fun token => "Bearer " ++ Text.trim token

/-- The client of the options. -/
def ofOptions (files : Files) (o : Options) : Except Error Client := do
  let tenant ← readTenant o
  let _ ← o.caPath.mapM (readFile files "CA")
  let serviceToken ← readServiceToken files o
  return {
    timeout := o.timeout
    skipTls := o.skipTls
    tenant
    forwardUserToken := o.forwardUserToken
    serviceToken }

/-- What authorises a request that came with the given token. -/
def authorization (c : Client) (userToken : Option String) : Option String :=
  if c.forwardUserToken then userToken.or c.serviceToken else c.serviceToken

/-- The schemes that requests are sent with. -/
def isWeb (u : Url) : Bool := u.scheme == "http".toList || u.scheme == "https".toList

/-- The most bytes of an address in a request. -/
def maxAddressSize : Nat := 65534

/-- A character that a domain name may have, but no host in a request. -/
def isHostBarred (c : Char) : Bool := "\"\x60\x7b\x7d".toList.contains c

/-- A request can be sent to the address. -/
def isReachable (u : Url) : Bool :=
  isWeb u && !(u.authority.any fun a => a.host.any isHostBarred) &&
    u.render.utf8ByteSize ≤ maxAddressSize

/-- The request for an address whose query is raw text. -/
def prepare (c : Client) (raw : String) (userToken : Option String) : Except Error Request := do
  let url ← (Url.ofRaw raw).mapError fun e => .invalidUrl raw e.message
  let authorization := c.authorization userToken
  if authorization.any fun token => !isHeaderValue token then
    throw (.request "builder error")
  if !isReachable url then throw (.request ("builder error for url (" ++ url.render ++ ")"))
  return { url, tenant := c.tenant, authorization }

end Client

end FlowConsole.Store
