/-!
# Timestamps

Times are written as dates of the Gregorian calendar, in UTC, with whole seconds. A year is taken to
start in March, so that the leap day is its last; the calendar repeats every 400 years.
-/

namespace FlowConsole.Export

/-- The days of 400 years. -/
def daysPerEra : Nat := 146097

/-- A date. -/
structure Date where
  year : Int
  month : Nat
  day : Nat
  deriving DecidableEq, Repr

/-- The date of a number of days since 1970-01-01. -/
def Date.ofDays (days : Int) : Date :=
  let shifted := days + 719468
  let era := shifted / (daysPerEra : Int)
  let dayOfEra := (shifted % (daysPerEra : Int)).toNat
  let yearOfEra :=
    (dayOfEra - dayOfEra / 1460 + dayOfEra / 36524 - dayOfEra / (daysPerEra - 1)) / 365
  let dayOfYear := dayOfEra - (365 * yearOfEra + yearOfEra / 4 - yearOfEra / 100)
  let monthFromMarch := (5 * dayOfYear + 2) / 153
  let month := if monthFromMarch < 10 then monthFromMarch + 3 else monthFromMarch - 9
  let year := era * 400 + yearOfEra
  { year := if month ≤ 2 then year + 1 else year
    month
    day := dayOfYear - (153 * monthFromMarch + 2) / 5 + 1 }

/-- The decimal digits of a number, with zeros before them up to the width. -/
def padded (width n : Nat) : String :=
  let ds := Nat.toDigits 10 n
  String.ofList (List.replicate (width - ds.length) '0' ++ ds)

/-- The text of a date. -/
def Date.render (d : Date) : String :=
  padded 4 d.year.toNat ++ "-" ++ padded 2 d.month ++ "-" ++ padded 2 d.day

/-- The text of a time in nanoseconds since the epoch, rounded down to seconds. Years have four
digits, as all years of times that fit in 64 bits do. -/
def renderTime (nanos : Int) : String :=
  let seconds := nanos / 1000000000
  let ofDay := (seconds % 86400).toNat
  (Date.ofDays (seconds / 86400)).render ++ "T" ++ padded 2 (ofDay / 3600) ++ ":" ++
    padded 2 (ofDay / 60 % 60) ++ ":" ++ padded 2 (ofDay % 60) ++ "Z"

end FlowConsole.Export
