import FlowConsole.Field
import FlowConsole.Filter.Basic

/-!
# Reporters

A flow may be reported by both of its ends. Queries count it once: they take what was received, and
of what was sent only the flows whose destination does not report.
-/

namespace FlowConsole

/-- The end whose reports are wanted. -/
inductive Reporter
  | source
  | destination
  | both
  deriving DecidableEq, Repr

namespace Reporter

/-- The direction of the flows that one end reports. -/
def direction? : Reporter → Option Direction
  | .source => some .egress
  | .destination => some .ingress
  | .both => none

/-- The reporter of a word of a request. -/
def ofWord? (word : String) : Option Reporter :=
  if word = "source" then some .source
  else if word = "destination" then some .destination
  else if word = "both" then some .both
  else none

/-- The matches of received flows, inner ones included. -/
def received : Filter.Group := [{ key := Field.flowDirection, values := "\"0\",\"2\"" }]

/-- The matches of sent flows whose destination does not report. -/
def sent : Filter.Group :=
  [{ key := Field.flowDirection, values := "\"1\"" },
    { key := Field.destinationType, values := "\"\",\"Service\"" }]

/-- The text between double quotes, as an exact atom. -/
def exactly (text : String) : String := "\"" ++ text ++ "\""

/-- Splits every group into one for each side of the namespace. -/
def scopeNamespace (e : Filter.Expression) (namespaceName : String) : Filter.Expression :=
  e.distribute
    [[{ key := Field.sourceNamespace, values := exactly namespaceName }],
      [{ key := Field.destinationNamespace, values := exactly namespaceName }]]
    fun _ => false

/-- Splits the groups that could count a flow twice into one for what was received and one for what
was sent. Groups that ask for a direction and groups that `isHandled` accepts stay as they are. -/
def splitDirections (e : Filter.Expression) (isHandled : Filter.Group → Bool) :
    Filter.Expression :=
  e.distribute [received, sent] fun g => g.hasKey Field.flowDirection || isHandled g

/-- The expression with its groups split by direction, and then by the sides of the namespace if
there is one. -/
def expand (e : Filter.Expression) (namespaceName : Option String)
    (isHandled : Filter.Group → Bool) : Filter.Expression :=
  match namespaceName with
  | none => splitDirections e isHandled
  | some name => scopeNamespace (splitDirections e isHandled) name

/-- Restricts the groups that ask for no direction to the direction of one reporter. -/
def restrict (r : Reporter) (e : Filter.Expression) : Filter.Expression :=
  match r.direction?.bind Direction.code? with
  | none => e
  | some code =>
    e.distribute [[{ key := Field.flowDirection, values := exactly code }]]
      fun g => g.hasKey Field.flowDirection

end Reporter

end FlowConsole
