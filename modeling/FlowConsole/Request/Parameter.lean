import FlowConsole.Failure
import FlowConsole.LogQL.Options

/-!
# Parameters of a request

The parameters of a request's query string, and how their texts are read. A parameter that is
missing and one that is empty mostly mean the same.
-/

namespace FlowConsole.Request

/-- Names and values in the order they are written. -/
abbrev Parameters := List (String × String)

namespace Parameters

/-- The value of a parameter. -/
def get? (ps : Parameters) (name : String) : Option String := List.lookup name ps

/-- The value of a parameter unless it is empty. -/
def given? (ps : Parameters) (name : String) : Option String := (ps.get? name).filter (· ≠ "")

/-- The first known name that is repeated, in the order of writing. -/
def repeatedAfter? (known seen : List String) : Parameters → Option String
  | [] => none
  | (name, _) :: rest =>
    if seen.contains name then some name
    else repeatedAfter? known (if known.contains name then name :: seen else seen) rest

/-- The first of the known names that is repeated. -/
def repeated? (known : List String) (ps : Parameters) : Option String := repeatedAfter? known [] ps

/-- An integer. Blanks around it are ignored, and blanks alone are nothing. -/
def integer? (ps : Parameters) (field : String) : Except Rejection (Option Int) :=
  match (ps.get? field).map Text.trim with
  | none | some "" => .ok none
  | some text =>
    match Integer.parse text with
    | .ok n => .ok (some n)
    | .error e => .error (.invalidInteger field text e)

/-- The limit when none is given. -/
def defaultLimit : Nat := 100

/-- The limit: a positive integer. -/
def limit (ps : Parameters) : Except Rejection Nat := do
  match ← ps.integer? "limit" with
  | none => return defaultLimit
  | some n => if 0 < n then return n.toNat else throw (.limitNotPositive n)

/-- A flag, off unless given. -/
def flag (ps : Parameters) (field : String) : Except Rejection Bool :=
  match ps.given? field with
  | none | some "false" => .ok false
  | some "true" => .ok true
  | some text => .error (.invalidFlag field text)

/-- A number of seconds, as a duration. -/
def readSeconds (text : String) : Except SecondsError Duration :=
  match Integer.parse (Text.trim text) with
  | .error e => .error (.notInteger e)
  | .ok n =>
    match Duration.ofSeconds n with
    | .error e => .error (.notDuration e)
    | .ok d => .ok d

/-- A duration: a literal or a number of seconds. -/
def duration (ps : Parameters) (field byDefault : String) : Except Rejection Duration :=
  let text := (ps.get? field).getD byDefault
  match Duration.parse text with
  | .ok d => .ok d
  | .error literal =>
    match readSeconds text with
    | .ok d => .ok d
    | .error seconds => .error (.invalidDuration field text literal seconds)

/-- A word, read unless it is missing or empty. -/
def word? {ε α : Type} (ps : Parameters) (field : String) (read : String → Except ε α) :
    Except ε (Option α) :=
  (ps.given? field).mapM read

/-- The kind of records. -/
def recordType? (ps : Parameters) : Except Failure (Option LogQL.RecordType) :=
  (ps.word? "recordType" LogQL.RecordType.parse).mapError .query

/-- The packet loss. -/
def packetLoss (ps : Parameters) : Except Failure LogQL.PacketLoss :=
  ((ps.word? "packetLoss" LogQL.PacketLoss.parse).mapError .query).map (·.getD .all)

/-- The expression of the filters. -/
def filters (ps : Parameters) : Except Failure Filter.Expression :=
  (Filter.Expression.parse ((ps.get? "filters").getD "")).mapError .filter

end Parameters

/-- The bounds of a query in seconds; an open one is left to the store. -/
structure Window where
  start : Option Int := none
  finish : Option Int := none
  deriving DecidableEq, Repr

/-- A value that fits in 64 bits; `field` and `value` tell what it was made from. -/
def inRange (field : String) (value result : Int) : Except Rejection Int :=
  match Integer.checked result with
  | some n => .ok n
  | none => .error (.outOfRange field value)

/-- The start of the window: the start time, or that long ago. -/
def Window.startOf (ps : Parameters) (now : Int) : Except Rejection (Option Int) := do
  match ← ps.integer? "startTime" with
  | some start => return some start
  | none => (← ps.integer? "timeRange").mapM fun range => inRange "timeRange" range (now - range)

/-- The end of the window: the second after the end time, so that flows of the last second are
included. -/
def Window.finishOf (ps : Parameters) : Except Rejection (Option Int) := do
  (← ps.integer? "endTime").mapM fun finish => inRange "endTime" finish (finish + 1)

/-- The window that the parameters ask for at the time `now`. -/
def Window.read (ps : Parameters) (now : Int) : Except Rejection Window := do
  let start ← startOf ps now
  let finish ← finishOf ps
  return ⟨start, finish⟩

/-- A step of a request that may be rejected. -/
def accept {α : Type} (r : Except Rejection α) : Except Failure α := r.mapError .rejected

end FlowConsole.Request
