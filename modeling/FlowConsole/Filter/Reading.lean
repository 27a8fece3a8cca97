import FlowConsole.Filter.Basic
import FlowConsole.Text.Percent
import FlowConsole.Text.Word

/-!
# Reading filter expressions

The text of an expression is percent encoded, with plus signs for spaces. Once decoded it is cut at
every `|` into groups and each group at every `&` into segments. A segment without an `=`, or with
nothing before its first one, is dropped. Keys and values are held to lists of admitted characters,
so that neither can carry query syntax.
-/

namespace FlowConsole.Filter

/-- Why a text is refused. -/
inductive Error
  | undecodable (reason : Utf8.Error)
  | unauthorized (text : String)
  deriving DecidableEq

/-- The wording of an error. -/
def Error.message : Error → String
  | .undecodable reason => "could not decode filters: " ++ reason.message
  | .unauthorized text => "unauthorized sign in flows request: " ++ text

/-- A letter of the ASCII range or an underscore. -/
def isKeyStart (c : Char) : Bool := c.isAlpha || c == '_'

/-- A character of a key after its first. -/
def isKeyRest (c : Char) : Bool := Text.isWord c || c == '.'

/-- A key: a letter or an underscore, then word characters and dots. -/
def isKey : List Char → Bool
  | [] => false
  | c :: cs => isKeyStart c && cs.all isKeyRest

/-- A character of a value. -/
def isValueChar (c : Char) : Bool :=
  Text.isWord c || c == '-' || c == '.' || c == ',' || c == '"' || c == '*' || c == ':' || c == '/'

/-- The match with the sign at the end of `key` read as a flag. -/
def Match.ofKeyAndValues (key values : List Char) : Match :=
  match key.getLast? with
  | some '!' => ⟨String.ofList key.dropLast, String.ofList values, true, false, false⟩
  | some '>' => ⟨String.ofList key.dropLast, String.ofList values, false, true, false⟩
  | some '~' => ⟨String.ofList key.dropLast, String.ofList values, false, false, true⟩
  | _ => ⟨String.ofList key, String.ofList values, false, false, false⟩

/-- The match of a segment, unless the segment is dropped. -/
def Match.ofSegment? (segment : List Char) : Option Match :=
  match Text.cut? '=' segment with
  | none => none
  | some (key, values) => if key.isEmpty then none else some (Match.ofKeyAndValues key values)

/-- The match, if its key and then its values are made of admitted characters. -/
def Match.admit (m : Match) : Except Error Match :=
  if !isKey m.key.toList then .error (.unauthorized m.key)
  else if !m.values.toList.all isValueChar then .error (.unauthorized m.values)
  else .ok m

/-- The matches of a group as written. -/
def Group.ofText (cs : List Char) : Except Error Group :=
  ((Text.pieces '&' cs).filterMap Match.ofSegment?).mapM Match.admit

/-- The expression of a decoded text. -/
def Expression.ofText (cs : List Char) : Except Error Expression :=
  (Text.pieces '|' cs).mapM Group.ofText

/-- The text that a parameter encodes. -/
def decodeParameter (raw : String) : Except Utf8.Error String :=
  let spaced := raw.toList.map fun c => if c = '+' then ' ' else c
  Utf8.decode (Percent.decode (Utf8.encode (String.ofList spaced)))

/-- Reads the expression of a request parameter. -/
def Expression.parse (raw : String) : Except Error Expression :=
  match decodeParameter raw with
  | .error reason => .error (.undecodable reason)
  | .ok text => Expression.ofText text.toList

end FlowConsole.Filter
