import FlowConsole.Text.Character
import FlowConsole.Text.Integer

/-!
# Timeouts

A timeout is written as a sum of amounts with units, such as `1m 30s`. An amount may have decimal
places and blanks between its digits. Amounts are limited to 64 bits in their unit and in what they
come to; places beyond whole seconds are dropped from hours and longer units.
-/

namespace FlowConsole.Config.Timeout

/-- The nanoseconds of a second. -/
def second : Nat := 1000000000

/-- The names of the units and their lengths in nanoseconds. A month is 30.44 days and a year
365.25 days. -/
def units : List (List String × Nat) :=
  [(["nanos", "nsec", "ns"], 1),
    (["usec", "us", "µs"], 1000),
    (["millis", "msec", "ms"], 1000000),
    (["seconds", "second", "secs", "sec", "s"], second),
    (["minutes", "minute", "min", "mins", "m"], 60 * second),
    (["hours", "hour", "hrs", "hr", "h"], 3600 * second),
    (["days", "day", "d"], 86400 * second),
    (["weeks", "week", "wks", "wk", "w"], 604800 * second),
    (["months", "month", "M"], 2630016 * second),
    (["years", "year", "yrs", "yr", "y"], 31557600 * second)]

/-- The length of a unit in nanoseconds. -/
def unit? (name : String) : Option Nat := (units.find? fun u => u.1.contains name).map Prod.snd

/-- The bound on amounts. -/
def bound : Nat := Nat.pow 2 64

/-- The value, if it is below the bound. -/
def limited (n : Nat) : Option Nat := if n < bound then some n else none

/-- Decimal places: `numerator / 10 ^ places` of a unit. -/
structure Fraction where
  numerator : Nat := 0
  places : Nat := 0

/-- A length of time, as seconds and nanoseconds beside them. -/
structure Span where
  seconds : Nat := 0
  nanos : Nat := 0

/-- A whole amount of a unit. -/
def whole? (amount unit : Nat) : Option Span :=
  if unit < second then (limited (amount * unit)).map (⟨0, ·⟩)
  else (limited (amount * (unit / second))).map (⟨·, 0⟩)

/-- Decimal places of a unit. Nanoseconds have none. -/
def Fraction.value? (f : Fraction) (unit : Nat) : Option Span :=
  if unit = 1 then none
  else if unit < 3600 * second then
    (limited (f.numerator * unit)).map fun n => ⟨0, n / Nat.pow 10 f.places⟩
  else
    (limited (f.numerator * (unit / second))).map fun n => ⟨n / Nat.pow 10 f.places, 0⟩

/-- A sum in nanoseconds with a length of time added. Its part below a second and the nanoseconds
added are bounded together, and so are its seconds. -/
def Span.addTo? (s : Span) (sum : Nat) : Option Nat := do
  let nanos ← limited (sum % second + s.nanos)
  let seconds ← limited (sum / second + s.seconds + nanos / second)
  return seconds * second + nanos % second

/-- How far a timeout has been read. -/
inductive Progress
  /-- Between amounts; there is a sum after the first one. -/
  | between (sum : Option Nat)
  | inAmount (sum amount : Nat)
  | inFraction (sum amount : Nat) (fraction : Fraction)
  /-- The name of the unit so far, in reverse. -/
  | inUnit (sum amount : Nat) (fraction : Option Fraction) (name : List Char)

/-- A letter of a unit. -/
def isLetter (c : Char) : Bool := c.isAlpha || c == 'µ'

/-- The sum after an amount, its decimal places and its unit, which is given in reverse. -/
def close? (sum amount : Nat) (fraction : Option Fraction) (name : List Char) : Option Nat := do
  let unit ← unit? (String.ofList name.reverse)
  let sum ← (← whole? amount unit).addTo? sum
  match fraction with
  | none => return sum
  | some f => (← f.value? unit).addTo? sum

/-- Reads a further character. -/
def Progress.step (p : Progress) (c : Char) : Option Progress :=
  match p with
  | .between sum =>
    if c.isDigit then some (.inAmount (sum.getD 0) (Integer.digitValue c))
    else if Text.isBlank c then some p
    else none
  | .inAmount sum amount =>
    if c.isDigit then (limited (amount * 10 + Integer.digitValue c)).map (.inAmount sum)
    else if Text.isBlank c then some p
    else if isLetter c then some (.inUnit sum amount none [c])
    else if c = '.' then some (.inFraction sum amount {})
    else none
  | .inFraction sum amount f =>
    if c.isDigit then
      if Nat.pow 10 (f.places + 1) < bound then
        some (.inFraction sum amount ⟨f.numerator * 10 + Integer.digitValue c, f.places + 1⟩)
      else none
    else if Text.isBlank c then some p
    else if isLetter c && 0 < f.places then some (.inUnit sum amount (some f) [c])
    else none
  | .inUnit sum amount fraction name =>
    if c.isDigit then
      (close? sum amount fraction name).map fun sum => .inAmount sum (Integer.digitValue c)
    else if Text.isBlank c then (close? sum amount fraction name).map fun sum => .between (some sum)
    else if isLetter c then some (.inUnit sum amount fraction (c :: name))
    else none

/-- The sum at the end of a timeout. -/
def Progress.finish : Progress → Option Nat
  | .between sum => sum
  | .inAmount _ _ | .inFraction _ _ _ => none
  | .inUnit sum amount fraction name => close? sum amount fraction name

/-- Reads a timeout in nanoseconds. A zero alone needs no unit. -/
def parse? (text : String) : Option Nat :=
  if text = "0" then some 0
  else (text.toList.foldlM Progress.step (.between none)).bind Progress.finish

end FlowConsole.Config.Timeout
