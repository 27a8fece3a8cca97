import FlowConsole.Field
import FlowConsole.LogQL.AtLeast
import FlowConsole.LogQL.Label

/-!
# Line filters

A line filter searches the raw text of a record, a compact JSON object, by a regular expression. A
field is found by the end of its name, its closing quote and the colon; where another field's name
ends the same way, by the opening quote too.
-/

namespace FlowConsole.LogQL

/-- How a value is written in the pattern of a line. -/
inductive LineForm
  | number
  | atLeast
  | flag
  | text
  | regex
  | contains
  | arrayContains
  deriving DecidableEq, Repr

/-- One value that a field is compared with. Its text is part of a regular expression, except that
a lower bound is written in plain digits. -/
structure LineValue where
  form : LineForm
  text : String
  deriving DecidableEq, Repr

/-- What the field of a line filter holds. -/
inductive LineKind
  | numeric
  | array
  | text
  deriving DecidableEq, Repr

/-- The kind of a field of the catalog. -/
def LineKind.of (catalog : Catalog) (key : String) : LineKind :=
  if catalog.isNumeric key then .numeric
  else if catalog.isArray key then .array
  else .text

/-- A search for a field with one of the values; without values, for the field itself. -/
structure LineFilter where
  key : String
  /-- The name is matched from its opening quote. -/
  strict : Bool
  values : List LineValue
  negated : Bool := false
  /-- Records without the field satisfy the negation. -/
  allowEmpty : Bool := false
  deriving DecidableEq, Repr

namespace LineValue

/-- The value of an atom, for a filter on `key`. -/
def ofAtom (key : String) (kind : LineKind) (atLeast : Bool) (atom : String) :
    Except QueryError LineValue :=
  match kind with
  | .numeric =>
    let value := Atom.unquoted atom
    if atLeast then
      if Atom.isDigits value.toList then .ok ⟨.atLeast, value⟩
      else .error (.invalidNumber key atom)
    else if Atom.isNumber value then .ok ⟨.number, Atom.pattern value⟩
    else .error (.invalidNumber key atom)
  | .array =>
    if atLeast then .error (.notANumber atom)
    else .ok ⟨.arrayContains, Atom.pattern (Atom.unquoted atom)⟩
  | .text =>
    if atLeast then .error (.notANumber atom)
    else
      match Atom.unquoted? atom with
      | some inner => .ok ⟨.text, Atom.pattern inner⟩
      | none => .ok ⟨.contains, Atom.pattern atom⟩

/-- What follows the colon. -/
def pattern (v : LineValue) : String :=
  match v.form with
  | .number | .flag | .regex => v.text
  | .atLeast => String.ofList (AtLeast.patternOf v.text.toList)
  | .text => "\"" ++ v.text ++ "\""
  | .contains => "\"(?i)[^\"]*" ++ v.text ++ ".*\""
  | .arrayContains => "\\[(?i)[^]]*" ++ v.text ++ "[^]]*]"

/-- The pattern of the character after a value. A number ends at the next field or at the end of
the record; other values end by themselves. -/
def boundary (v : LineValue) : String :=
  match v.form with
  | .number | .atLeast | .regex => "[,\x7d]"
  | .flag | .text | .contains | .arrayContains => ""

end LineValue

namespace LineFilter

/-- The filter of the atoms of a match on a field that is neither a label nor an address. -/
def ofAtoms (key : String) (atoms : List String) (kind : LineKind) (strict negated atLeast : Bool) :
    Except QueryError LineFilter := do
  let values ← atoms.mapM (LineValue.ofAtom key kind atLeast)
  return { key, strict, values, negated }

/-- A search for a truth value, or for its absence. -/
def flag (key : String) (value negated : Bool) : LineFilter :=
  { key
    strict := false
    values := [⟨.flag, if value then "true" else "false"⟩]
    negated
    allowEmpty := true }

/-- A search for a number. -/
def number (key value : String) (strict : Bool) : LineFilter :=
  { key, strict, values := [⟨.number, value⟩] }

/-- A search for any of the texts. -/
def exact (key : String) (values : List String) (strict : Bool) : LineFilter :=
  { key, strict, values := values.map fun v => ⟨.text, Atom.pattern v⟩ }

/-- A search for a number that matches the regular expression. -/
def regex (key pattern : String) (strict : Bool) : LineFilter :=
  { key, strict, values := [⟨.regex, pattern⟩] }

/-- A search for the field itself. -/
def presence (key : String) (strict : Bool) : LineFilter := { key, strict, values := [] }

/-- The pattern of the name and the colon. -/
def keyPattern (f : LineFilter) : String := (if f.strict then "\"" else "") ++ f.key ++ "\":"

/-- The pattern of the field with a value, up to the end of the value. -/
def fragment (f : LineFilter) (v : LineValue) : String := f.keyPattern ++ v.pattern

/-- The pattern of the field with a value. -/
def alternative (f : LineFilter) (v : LineValue) : String := f.fragment v ++ v.boundary

/-- The pattern of the field with any of the values. -/
def body (f : LineFilter) : String :=
  if f.values.isEmpty then f.keyPattern else Text.join "|" (f.values.map f.alternative)

/-- A stage of the query: an operator and a pattern between backticks. -/
def stage (operator body : String) : String := operator ++ "`" ++ body ++ "`"

/-- The text of a line filter. Fields with empty or zero values are left out of records, so a
negated filter also asks for the field itself, unless `allowEmpty` holds. -/
def render (f : LineFilter) : String :=
  if f.negated then
    (if !f.allowEmpty && !f.values.isEmpty then stage "|~" f.keyPattern else "") ++
      stage "!~" f.body
  else stage "|~" f.body

end LineFilter

end FlowConsole.LogQL
