import FlowConsole.Url.Host
import FlowConsole.Url.Path

/-!
# Reading URLs

A text is read as an absolute URL the way browsers do. Blanks around it and line breaks in it are
ignored. Web schemes take backslashes for slashes and always have a host and a path; a file has a
path and may have a host; other schemes have what is written.
-/

namespace FlowConsole.Url

/-- The schemes with rules of their own. -/
inductive SchemeKind
  | web (port : Nat)
  | file
  | other
  deriving DecidableEq, Repr

/-- The kind of a scheme, and the port of a web scheme. -/
def SchemeKind.of (scheme : List Char) : SchemeKind :=
  let s := String.ofList scheme
  if s = "http" ∨ s = "ws" then .web 80
  else if s = "https" ∨ s = "wss" then .web 443
  else if s = "ftp" then .web 21
  else if s = "file" then .file
  else .other

/-- The scheme takes backslashes for slashes. -/
def SchemeKind.isSpecial : SchemeKind → Bool
  | .other => false
  | _ => true

/-- The port that need not be written. -/
def SchemeKind.defaultPort? : SchemeKind → Option Nat
  | .web port => some port
  | _ => none

/-- A character after the first of a scheme. -/
def isSchemeChar (c : Char) : Bool := c.isAlphanum || c == '+' || c == '-' || c == '.'

/-- The scheme in lower case, and what follows its colon. -/
def readScheme? (cs : List Char) : Option (List Char × List Char) :=
  match Text.cut? ':' cs with
  | some (c :: scheme, rest) =>
    if c.isAlpha && scheme.all isSchemeChar then some ((c :: scheme).map Char.toLower, rest)
    else none
  | _ => none

/-- The text without the control characters and spaces around it, and without tabs and line
breaks. -/
def cleaned (cs : List Char) : List Char :=
  let isOuter (c : Char) : Bool := c.toNat ≤ 0x20
  (Text.dropEndWhile isOuter (cs.dropWhile isOuter)).filter
    fun c => c ≠ '\t' && c ≠ '\n' && c ≠ '\r'

/-- A separator of the segments of a path. -/
def isSlash (kind : SchemeKind) (c : Char) : Bool := c == '/' || (kind.isSpecial && c == '\\')

/-- The segments of a text. -/
def segmentsOf (kind : SchemeKind) (cs : List Char) : List (List Char) :=
  Text.pieces '/' (cs.map fun c => if isSlash kind c then '/' else c)

/-- The path of the text after its first slash. -/
def readPath (kind : SchemeKind) (cs : List Char) : List Char :=
  renderPath (resolve false [] (segmentsOf kind cs))

/-- The text before the last sign of its kind, and the text after it. -/
def cutLast? (sep : Char) (cs : List Char) : Option (List Char × List Char) :=
  (Text.cut? sep cs.reverse).map fun p => (p.2.reverse, p.1.reverse)

/-- The user and the password, with the sign that ends them. -/
def readUserInfo (cs : List Char) : List Char :=
  let (user, password) := Text.cutOrAll ':' cs
  let encoded := Percent.encode isUserReserved user ++
    (if password.isEmpty then [] else ':' :: Percent.encode isUserReserved password)
  if encoded.isEmpty then [] else encoded ++ ['@']

/-- The host at the start of a text, and what follows it: a port after a colon outside brackets. -/
def scanHost (inBrackets : Bool) : List Char → List Char × List Char
  | [] => ([], [])
  | c :: cs =>
    if c = ':' ∧ !inBrackets then ([], c :: cs)
    else
      let r := scanHost (if c = '[' then true else if c = ']' then false else inBrackets) cs
      (c :: r.1, r.2)

/-- The port after a colon, unless it is empty or the default one, and what follows it. A backslash
ends it too. -/
def readPort (kind : SchemeKind) : List Char → Except Error (Option Nat × List Char)
  | ':' :: cs =>
    let digits := cs.takeWhile Char.isDigit
    let rest := cs.dropWhile Char.isDigit
    let port := (Text.numeral? 10 digits).getD 0
    if 65535 < port || rest.head?.any fun c => c ≠ '/' && c ≠ '\\' then .error .invalidPort
    else if digits.isEmpty || kind.defaultPort? = some port then .ok (none, rest)
    else .ok (some port, rest)
  | cs => .ok (none, cs)

/-- The host of a scheme. -/
def readHost (kind : SchemeKind) (cs : List Char) : Except Error (List Char) :=
  if kind.isSpecial then webHost cs else otherHost cs

/-- The authority of a scheme other than `file`, and what follows it. Only other schemes may leave
out the host, if there is neither a user nor a port. `isLast` tells that the text is the end of the
address. -/
def readAuthority (kind : SchemeKind) (isLast : Bool) (cs : List Char) :
    Except Error (Authority × List Char) := do
  let authority := cs.takeWhile (!isSlash kind ·)
  let path := cs.dropWhile (!isSlash kind ·)
  let (user, hostAndPort) := (cutLast? '@' authority).getD ([], authority)
  let userInfo := readUserInfo user
  let (host, port) := scanHost false hostAndPort
  let hasLoneSign := user.isEmpty && authority.head? == some '@' && !(isLast && path.isEmpty)
  if host.isEmpty && (kind.isSpecial || !port.isEmpty || !userInfo.isEmpty || hasLoneSign) then
    throw .emptyHost
  let host ← readHost kind host
  let (port, rest) ← readPort kind port
  return (⟨userInfo, host, port⟩, rest ++ path)

/-- The host of a file. The local host is left out. -/
def readFileHost (cs : List Char) : Except Error (List Char) :=
  if cs.isEmpty then .ok []
  else (webHost cs).map fun host => if host = "localhost".toList then [] else host

/-- The authority and the path of a file, given its host and what its path is read from. A host in
front of a drive is left out. -/
def ofFile (host : List Char) (path : List Char) : Option Authority × List Char :=
  let segments := resolve true [] (segmentsOf .file path)
  let host := if segments.head?.any isDrive then [] else host
  (some ⟨[], host, none⟩, renderFilePath segments)

/-- The authority and the path of what follows two slashes in the address of a file. -/
def readFileBody (cs : List Char) : Except Error (Option Authority × List Char) := do
  let host := cs.takeWhile (!isSlash .file ·)
  let path := cs.dropWhile (!isSlash .file ·)
  if isDrive host then return ofFile [] cs
  else
    let host ← readFileHost host
    return ofFile host (if host.isEmpty then path else path.drop 1)

/-- The authority and the path of what follows the scheme. `isLast` tells that nothing follows the
path. -/
def readBody (kind : SchemeKind) (isLast : Bool) (cs : List Char) :
    Except Error (Option Authority × List Char) := do
  match kind, cs with
  | .web _, _ =>
    let (authority, path) ← readAuthority kind isLast (cs.dropWhile (isSlash kind))
    return (some authority, readPath kind (path.drop 1))
  | .file, a :: b :: rest =>
    if isSlash kind a && isSlash kind b then readFileBody rest
    else return ofFile [] (if isSlash kind a then b :: rest else cs)
  | .file, _ => return ofFile [] (cs.dropWhile (isSlash kind))
  | .other, '/' :: '/' :: rest =>
    let (authority, path) ← readAuthority kind isLast rest
    match path with
    | [] => return (some authority, [])
    | '/' :: path => return (some authority, readPath kind path)
    | path => return (some authority, readPath kind path)
  | .other, '/' :: path => return (none, readPath kind path)
  | .other, path => return (none, Percent.encode isControl path)

/-- Reads an absolute URL. -/
def read (cs : List Char) : Except Error Url := do
  let some (scheme, rest) := readScheme? (cleaned cs) | throw .relative
  let kind := SchemeKind.of scheme
  let (beforeFragment, fragment) :=
    match Text.cut? '#' rest with
    | some (before, after) => (before, some (Percent.encode isFragmentReserved after))
    | none => (rest, none)
  let (body, query) :=
    match Text.cut? '?' beforeFragment with
    | some (before, after) => (before, some (Percent.encode (isQueryReserved kind.isSpecial) after))
    | none => (beforeFragment, none)
  let isLast := query.isNone && fragment.isNone
  let (authority, path) ← readBody kind isLast body
  return { scheme, authority, path, query, fragment }

/-- The parameters of a raw query: cut at `&`, empty ones skipped, and each cut at its first `=`. -/
def rawParameters (query : List Char) : List (List Char × List Char) :=
  ((Text.pieces '&' query).filter (!·.isEmpty)).map (Text.cutOrAll '=')

/-- Reads a URL whose query, if it has one, is raw text. The query starts at the first question
mark, wherever it stands, and is written in form encoding. -/
def ofRaw (raw : String) : Except Error Url :=
  match Text.cut? '?' raw.toList with
  | none => read raw.toList
  | some (base, query) =>
    (read base).map fun u => { u with query := some (Percent.renderForm (rawParameters query)) }

end FlowConsole.Url
