import FlowConsole.Text.Percent

/-!
# Addresses of resources

The parts of an absolute URL, each as it is written, and the URL that they make.
-/

namespace FlowConsole

/-- Why a text is no absolute URL. -/
inductive Url.Error
  | relative
  | emptyHost
  | invalidDomain
  | invalidHostCharacter
  | invalidPort
  | invalidIpv4
  | invalidIpv6
  deriving DecidableEq, Repr

/-- The wording of an error. -/
def Url.Error.message : Url.Error → String
  | .relative => "relative URL without a base"
  | .emptyHost => "empty host"
  | .invalidDomain => "invalid international domain name"
  | .invalidHostCharacter => "invalid domain character"
  | .invalidPort => "invalid port number"
  | .invalidIpv4 => "invalid IPv4 address"
  | .invalidIpv6 => "invalid IPv6 address"

/-- What stands between the two slashes and the path. -/
structure Url.Authority where
  /-- The user and the password, with the sign that ends them; empty if there is neither. -/
  userInfo : List Char
  host : List Char
  port : Option Nat
  deriving DecidableEq, Repr

/-- An absolute URL. -/
structure Url where
  scheme : List Char
  authority : Option Url.Authority
  path : List Char
  query : Option (List Char)
  fragment : Option (List Char)
  deriving DecidableEq, Repr

namespace Url

/-- The text of an authority. -/
def Authority.render (a : Authority) : List Char :=
  '/' :: '/' :: (a.userInfo ++ a.host ++ (a.port.map fun p => ':' :: Nat.toDigits 10 p).getD [])

/-- What stands before the path if there is no authority: a path that starts with two slashes would
be read as one. -/
def pathGuard : List Char → List Char
  | '/' :: '/' :: _ => ['/', '.']
  | _ => []

/-- An optional part after its sign. -/
def renderPart (sign : Char) (part : Option (List Char)) : List Char :=
  (part.map (sign :: ·)).getD []

/-- The text of a URL. -/
def render (u : Url) : String :=
  String.ofList (u.scheme ++ ':' :: ((u.authority.map Authority.render).getD (pathGuard u.path) ++
    u.path ++ renderPart '?' u.query ++ renderPart '#' u.fragment))

/-- A character that is always escaped: one that is no visible ASCII character or space. -/
def isControl (c : Char) : Bool := c.toNat < 0x20 || 0x7E < c.toNat

/-- A character that is escaped in a fragment. -/
def isFragmentReserved (c : Char) : Bool :=
  isControl c || c == ' ' || c == '"' || c == '<' || c == '>' || c == '\x60'

/-- A character that is escaped in a path. -/
def isPathReserved (c : Char) : Bool :=
  isFragmentReserved c || c == '#' || c == '?' || c == '\x7b' || c == '\x7d'

/-- A character that is escaped in a user name or a password. -/
def isUserReserved (c : Char) : Bool :=
  isPathReserved c || c == '/' || c == ':' || c == ';' || c == '=' || c == '@' || c == '[' ||
    c == '\\' || c == ']' || c == '^' || c == '|'

/-- A character that is escaped in a query; web schemes escape the apostrophe too. -/
def isQueryReserved (isWeb : Bool) (c : Char) : Bool :=
  isControl c || c == ' ' || c == '"' || c == '#' || c == '<' || c == '>' || (isWeb && c == '\x27')

end Url

end FlowConsole
