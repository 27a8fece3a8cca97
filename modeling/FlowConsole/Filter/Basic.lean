import FlowConsole.Text.Split

/-!
# Filter expressions

A filter expression is a list of groups composed with *or*; a group is a list of matches composed
with *and*. A match names a field and a comma separated list of atoms, and may be negated, ask for
numbers from a bound upwards, or hold a regular expression. The text of an expression writes
`k1=v1&k2=v2|k3=v3`, with `!`, `>` or `~` before the `=` of such matches.
-/

namespace FlowConsole.Filter

/-- One predicate on a field. -/
structure Match where
  key : String
  values : String
  negated : Bool := false
  atLeast : Bool := false
  regex : Bool := false
  deriving DecidableEq, Repr

/-- Matches composed with *and*. -/
abbrev Group := List Match

/-- Groups composed with *or*. -/
abbrev Expression := List Group

/-- The atoms of the values. -/
def Match.atoms (m : Match) : List String := Text.split ',' m.values

/-- The sign between the key and the `=`. -/
def Match.sign (m : Match) : String :=
  if m.negated then "!" else if m.atLeast then ">" else if m.regex then "~" else ""

/-- The text of a match. -/
def Match.render (m : Match) : String := m.key ++ m.sign ++ "=" ++ m.values

/-- A match of the group names the field. -/
def Group.hasKey (g : Group) (key : String) : Bool := g.any fun m => m.key == key

/-- The first match of the group that names the field. -/
def Group.find? (g : Group) (key : String) : Option Match := List.find? (fun m => m.key == key) g

/-- The text of a group. -/
def Group.render (g : Group) : String := Text.join "&" (g.map Match.render)

/-- The text of an expression. -/
def Expression.render (e : Expression) : String := Text.join "|" (e.map Group.render)

/-- Keeps the groups that `keep` accepts, and replaces each other group by one copy for every
prepended group, whose matches come first. -/
def Expression.distribute (e : Expression) (prepended : List Group) (keep : Group → Bool) :
    Expression :=
  e.flatMap fun g => if keep g then [g] else prepended.map (· ++ g)

end FlowConsole.Filter
