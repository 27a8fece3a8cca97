import FlowConsole.Text.Character
import FlowConsole.Text.Integer
import FlowConsole.Text.Visible

/-!
# Durations

A duration is a positive number of nanoseconds below `2 ^ 63`. Its literals are sequences of parts
such as `1h30m`, each an unsigned integer and a unit. The canonical text uses hours, minutes,
seconds and milliseconds only, largest first, and leaves out what is shorter than a millisecond.
-/

namespace FlowConsole

/-- A positive number of nanoseconds that fits in 64 bits. -/
structure Duration where
  nanos : Nat
  pos : 0 < nanos
  le_max : nanos ≤ Integer.maxInt64
  deriving DecidableEq

namespace Duration

/-- A unit of time. -/
inductive TimeUnit
  | millisecond
  | second
  | minute
  | hour
  | day
  | week
  | year
  deriving DecidableEq, Repr

/-- The nanoseconds of a unit. Days have 24 hours and years 365 days. -/
def TimeUnit.nanos : TimeUnit → Nat
  | .millisecond => 1000000
  | .second => 1000000000
  | .minute => 60 * 1000000000
  | .hour => 3600 * 1000000000
  | .day => 24 * 3600 * 1000000000
  | .week => 7 * 24 * 3600 * 1000000000
  | .year => 365 * 24 * 3600 * 1000000000

/-- The letters of a unit. -/
def TimeUnit.symbol : TimeUnit → List Char
  | .millisecond => ['m', 's']
  | .second => ['s']
  | .minute => ['m']
  | .hour => ['h']
  | .day => ['d']
  | .week => ['w']
  | .year => ['y']

/-- The unit at the start of a text, and what follows it. Of `ms` and `m` the longer wins. -/
def TimeUnit.read? : List Char → Option (TimeUnit × List Char)
  | 'm' :: 's' :: rest => some (.millisecond, rest)
  | 'm' :: rest => some (.minute, rest)
  | 's' :: rest => some (.second, rest)
  | 'h' :: rest => some (.hour, rest)
  | 'd' :: rest => some (.day, rest)
  | 'w' :: rest => some (.week, rest)
  | 'y' :: rest => some (.year, rest)
  | _ => none

/-- One part of a literal: a count of units. -/
structure Part where
  count : Nat
  unit : TimeUnit
  deriving DecidableEq, Repr

/-- What is missing where a literal stops being one. -/
inductive Fault
  | digit
  | number
  | unit
  | finish
  deriving DecidableEq, Repr

/-- The name of a fault in messages. -/
def Fault.name : Fault → String
  | .digit => "Digit"
  | .number => "MapRes"
  | .unit => "Tag"
  | .finish => "Eof"

/-- Why there is no duration. -/
inductive Error
  | malformed (text : String) (rest : List Char) (fault : Fault)
  | overflow (text : String)
  | secondsOverflow (seconds : Int)
  | notPositive
  deriving DecidableEq

/-- The wording of an error. -/
def Error.message : Error → String
  | .malformed text rest fault =>
    "invalid duration `" ++ text ++ "`: Parsing Error: Error \x7b input: " ++ Text.quoted rest ++
      ", code: " ++ fault.name ++ " \x7d"
  | .overflow text => "duration `" ++ text ++ "` overflows"
  | .secondsOverflow seconds => "duration of " ++ toString seconds ++ "s overflows"
  | .notPositive => "duration must be positive"

/-- The duration of a number of nanoseconds, which is taken to fit in 64 bits if it is positive. -/
def ofNanos (nanos : Int) : Except Error Duration :=
  if h : 0 < nanos ∧ nanos ≤ (Integer.maxInt64 : Int) then
    .ok ⟨nanos.toNat, by omega, by omega⟩
  else .error .notPositive

/-- The duration of a number of seconds. -/
def ofSeconds (seconds : Int) : Except Error Duration :=
  match Integer.checked (seconds * (TimeUnit.second.nanos : Int)) with
  | none => .error (.secondsOverflow seconds)
  | some nanos => ofNanos nanos

/-- The part at the start of a text, and what follows it; or the fault and where it lies. -/
def readPart (cs : List Char) : Except (Fault × List Char) (Part × List Char) :=
  let digits := cs.takeWhile Char.isDigit
  let rest := cs.dropWhile Char.isDigit
  if digits.isEmpty then .error (.digit, cs)
  else
    match Integer.readDigits Integer.maxInt64 .tooLarge 0 digits with
    | .error _ => .error (.number, cs)
    | .ok count =>
      match TimeUnit.read? rest with
      | none => .error (.unit, rest)
      | some (unit, rest) => .ok (⟨count, unit⟩, rest)

/-- The parts at the start of a text up to the first place where none follows. Each part uses up
one unit of fuel and at least one character. -/
def readParts : Nat → List Char → List Part × List Char
  | 0, cs => ([], cs)
  | fuel + 1, cs =>
    match readPart cs with
    | .error _ => ([], cs)
    | .ok (part, rest) => let (parts, rest) := readParts fuel rest; (part :: parts, rest)

/-- All of a text as parts. The fault of the first part is its own; where a later part is broken,
the literal should have ended. -/
def readLiteral (cs : List Char) : Except (Fault × List Char) (List Part) :=
  match readPart cs with
  | .error fault => .error fault
  | .ok (part, rest) =>
    match readParts rest.length rest with
    | (parts, []) => .ok (part :: parts)
    | (_, rest) => .error (.finish, rest)

/-- The nanoseconds of the parts added to `total`, as long as no step leaves the range. -/
def addParts (total : Nat) : List Part → Option Nat
  | [] => some total
  | part :: parts =>
    let nanos := part.count * part.unit.nanos
    if nanos ≤ Integer.maxInt64 ∧ total + nanos ≤ Integer.maxInt64 then
      addParts (total + nanos) parts
    else none

/-- The duration of a literal. Blanks around it are ignored. -/
def parse (text : String) : Except Error Duration :=
  let cs := Text.trimmed text.toList
  match readLiteral cs with
  | .error (fault, rest) => .error (.malformed (String.ofList cs) rest fault)
  | .ok parts =>
    match addParts 0 parts with
    | none => .error (.overflow (String.ofList cs))
    | some total => ofNanos total

/-- The whole seconds of a duration. -/
def seconds (d : Duration) : Nat := d.nanos / TimeUnit.second.nanos

/-- The units of the canonical text, largest first. -/
def canonicalUnits : List TimeUnit := [.hour, .minute, .second, .millisecond]

/-- The parts of a number of nanoseconds in the given units; units that occur no times are left
out. -/
def partsOf (nanos : Nat) : List TimeUnit → List Part
  | [] => []
  | unit :: units =>
    let count := nanos / unit.nanos
    if count = 0 then partsOf nanos units
    else ⟨count, unit⟩ :: partsOf (nanos % unit.nanos) units

/-- The text of a part. -/
def Part.render (p : Part) : List Char := Nat.toDigits 10 p.count ++ p.unit.symbol

/-- The canonical text of a duration. -/
def render (d : Duration) : String :=
  String.ofList ((partsOf d.nanos canonicalUnits).flatMap Part.render)

end Duration

end FlowConsole
