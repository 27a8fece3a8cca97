import FlowConsole.LogQL.Atom
import FlowConsole.QueryError

/-!
# Label filters

A label filter compares a label with a value. It stands in a stream selector, or after the `json`
stage of a query, and also in the selectors of metric stores.
-/

namespace FlowConsole.LogQL

/-- The operator of a label filter. -/
inductive Operator
  | equal
  | matching
  | notEqual
  | notMatching
  | atLeast
  deriving DecidableEq, Repr

/-- The sign of an operator. -/
def Operator.sign : Operator → String
  | .equal => "="
  | .matching => "=~"
  | .notEqual => "!="
  | .notMatching => "!~"
  | .atLeast => ">="

/-- How the value of a label filter is written. -/
inductive LabelForm
  | number
  | text
  | regex
  | address
  deriving DecidableEq, Repr

/-- A comparison of a label with a value. -/
structure LabelFilter where
  key : String
  operator : Operator
  value : String
  form : LabelForm
  deriving DecidableEq, Repr

/-- A character of a double quoted literal. -/
def escapeChar (c : Char) : List Char := if c = '\\' ∨ c = '"' then ['\\', c] else [c]

/-- The text with backslashes before its quotes and backslashes. -/
def escape (s : String) : String := String.ofList (s.toList.flatMap escapeChar)

namespace LabelFilter

/-- Equality with a text, or its negation. -/
def text (key value : String) (negated : Bool) : LabelFilter :=
  ⟨key, if negated then .notEqual else .equal, value, .text⟩

/-- A match with a raw regular expression, or its negation. -/
def regex (key value : String) (negated : Bool) : LabelFilter :=
  ⟨key, if negated then .notMatching else .matching, value, .regex⟩

/-- Equality with a number, or its negation. -/
def number (key value : String) (negated : Bool) : LabelFilter :=
  ⟨key, if negated then .notEqual else .equal, value, .number⟩

/-- Equality with an address, or its negation. -/
def address (key value : String) (negated : Bool) : LabelFilter :=
  ⟨key, if negated then .notEqual else .equal, value, .address⟩

/-- A lower bound on a number. -/
def atLeast (key value : String) : Except QueryError LabelFilter :=
  if Atom.isNumber value then .ok ⟨key, .atLeast, value, .number⟩ else .error (.notANumber value)

/-- The alternative of an atom: a quoted one is anchored at the sides where it has no star, any
other is looked for anywhere, in any case. -/
def alternative (atom : String) : String :=
  match Atom.unquoted? atom with
  | some inner =>
    (if inner.toList.head? = some '*' then "" else "^") ++ Atom.pattern inner ++
      (if inner.toList.getLast? = some '*' then "" else "$")
  | none => "(?i).*" ++ Atom.pattern atom ++ ".*"

/-- A match with any of the atoms, or its negation. -/
def anyOf (key : String) (atoms : List String) (negated : Bool) : LabelFilter :=
  ⟨key, if negated then .notMatching else .matching, Text.join "|" (atoms.map alternative), .text⟩

/-- The filter of the atoms of a match. A single exact atom is an equality. -/
def ofAtoms (key : String) (atoms : List String) (negated : Bool) : LabelFilter :=
  match atoms with
  | [atom] =>
    if Atom.isExact atom then text key ((Atom.unquoted? atom).getD "") negated
    else anyOf key [atom] negated
  | atoms => anyOf key atoms negated

/-- The filter of the atoms of a match is on the field that it is made for. -/
@[simp] theorem key_ofAtoms (key : String) (atoms : List String) (negated : Bool) :
    (ofAtoms key atoms negated).key = key := by
  rw [ofAtoms.eq_def]
  split
  · split <;> rfl
  · rfl

/-- The text of the value. -/
def valueText (f : LabelFilter) : String :=
  match f.form with
  | .number => f.value
  | .text => "\"" ++ escape f.value ++ "\""
  | .address => "ip(\"" ++ f.value ++ "\")"
  | .regex => "`" ++ f.value ++ "`"

/-- The text of a label filter. -/
def render (f : LabelFilter) : String := f.key ++ f.operator.sign ++ f.valueText

end LabelFilter

end FlowConsole.LogQL
