import FlowConsole.Text.Split

/-!
# Atoms

An atom is one of the comma separated values of a match. Between double quotes it is compared
exactly, otherwise it is looked for anywhere in the field; a star stands for any text.
-/

namespace FlowConsole.LogQL.Atom

/-- The text between the quotes of a quoted list of characters. -/
def inner? : List Char → Option (List Char)
  | '"' :: cs => if cs.getLast? = some '"' then some cs.dropLast else none
  | _ => none

/-- The text between the quotes of a quoted atom. -/
def unquoted? (atom : String) : Option String := (inner? atom.toList).map String.ofList

/-- The atom without its quotes, if it has any. -/
def unquoted (atom : String) : String := (unquoted? atom).getD atom

/-- A quoted atom without a star, which means equality. -/
def isExact (atom : String) : Bool := (inner? atom.toList).any fun cs => !cs.contains '*'

/-- A character that regular expressions give a meaning to, the star excepted. -/
def isMeta (c : Char) : Bool :=
  c == '\\' || c == '.' || c == '+' || c == '?' || c == '(' || c == ')' || c == '|' || c == '[' ||
    c == ']' || c == '\x7b' || c == '\x7d' || c == '^' || c == '$'

/-- The regular expression of one character of an atom. -/
def charPattern (c : Char) : List Char :=
  if c = '*' then ['.', '*'] else if isMeta c then ['\\', c] else [c]

/-- The regular expression of an atom: a star stands for any text, all else for itself. -/
def pattern (atom : String) : String := String.ofList (atom.toList.flatMap charPattern)

/-- Digits only, and at least one. -/
def isDigits (cs : List Char) : Bool := !cs.isEmpty && cs.all Char.isDigit

/-- A decimal number: an optional minus, digits, and an optional point with more digits. -/
def isNumber (value : String) : Bool :=
  let unsigned := match value.toList with
    | '-' :: cs => cs
    | cs => cs
  match Text.cut? '.' unsigned with
  | none => isDigits unsigned
  | some (whole, fraction) => isDigits whole && isDigits fraction

end FlowConsole.LogQL.Atom
