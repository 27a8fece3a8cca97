/-!
# The fewest digits that read back

A finite double stands for every real number that rounds to it. Among the decimals in that
interval, the ones with the fewest digits are found by looking at the two neighbours of the value
on the grids of 1, 2, … 17 digits; the nearer of two candidates wins, and an exact tie is left to
the caller. All of it is exact arithmetic on natural numbers.
-/

namespace FlowConsole.Decimal

/-- The parts of a finite double, `mantissa * 2 ^ exponent`. -/
structure Binary where
  mantissa : Nat
  exponent : Int
  deriving DecidableEq, Repr

/-- The magnitude of the finite double with these bits. -/
def Binary.ofBits (bits : UInt64) : Binary :=
  let fraction : Nat := bits.toNat % Nat.pow 2 52
  let biased : Nat := bits.toNat / Nat.pow 2 52 % Nat.pow 2 11
  if biased = 0 then ⟨fraction, -1074⟩ else ⟨Nat.pow 2 52 + fraction, (biased : Int) - 1075⟩

/-- A decimal, `digits * 10 ^ exponent`. -/
structure Scientific where
  digits : Nat
  exponent : Int
  deriving DecidableEq, Repr

/-- A value with the ends of the interval that rounds to it, over one denominator. The ends belong
to the interval if `closed` holds. -/
structure Interval where
  low : Nat
  value : Nat
  high : Nat
  den : Nat
  closed : Bool

/-- The interval of a positive double. Below a power of two the spacing halves, so there the lower
end is nearer. -/
def Binary.interval (b : Binary) : Interval :=
  let scale := Nat.pow 2 b.exponent.toNat
  let below := if b.mantissa = Nat.pow 2 52 ∧ b.exponent ≠ -1074 then 1 else 2
  { low := (4 * b.mantissa - below) * scale
    value := 4 * b.mantissa * scale
    high := (4 * b.mantissa + 2) * scale
    den := 4 * Nat.pow 2 (-b.exponent).toNat
    closed := b.mantissa % 2 = 0 }

/-- The least `j`, counted up from `j`, with `den ≤ num * 10 ^ j`. -/
def leadingZeros (num den : Nat) (j : Nat) : Nat → Nat
  | 0 => j
  | fuel + 1 => if den ≤ num * Nat.pow 10 j then j else leadingZeros num den (j + 1) fuel

/-- The number of decimal digits less one, counted up from `j`. -/
def extraDigits (n : Nat) (j : Nat) : Nat → Nat
  | 0 => j
  | fuel + 1 => if n < Nat.pow 10 (j + 1) then j else extraDigits n (j + 1) fuel

/-- The exponent of the leading decimal digit of `num / den`. -/
def leadingExponent (num den : Nat) : Int :=
  if den ≤ num then extraDigits (num / den) 0 400 else -(leadingZeros num den 0 400 : Int)

/-- `n / den` in units of `10 ^ k`, as a numerator and a denominator. -/
def inUnits (n den : Nat) (k : Int) : Nat × Nat :=
  if 0 ≤ k then (n, den * Nat.pow 10 k.toNat) else (n * Nat.pow 10 (-k).toNat, den)

/-- The decimal `c * 10 ^ k` lies in the interval. -/
def Interval.holds (i : Interval) (c : Nat) (k : Int) : Bool :=
  let low := inUnits i.low i.den k
  let high := inUnits i.high i.den k
  if i.closed then low.1 ≤ c * low.2 && c * high.2 ≤ high.1
  else low.1 < c * low.2 && c * high.2 < high.1

/-- The neighbour of the value on the grid of `10 ^ k` that lies in the interval, if any. Of two,
the nearer; of two equally near ones, the upper if `tieUp c` holds of the lower, `c`. -/
def Interval.onGrid (tieUp : Nat → Bool) (i : Interval) (k : Int) : Option Nat :=
  let v := inUnits i.value i.den k
  let c := v.1 / v.2
  let r := v.1 % v.2
  if r = 0 then some c
  else if i.holds c k then
    if i.holds (c + 1) k then
      some (if 2 * r < v.2 then c else if 2 * r = v.2 ∧ !tieUp c then c else c + 1)
    else some c
  else if i.holds (c + 1) k then some (c + 1)
  else none

/-- Takes trailing zeros from the digits into the exponent. -/
def Scientific.normal (s : Scientific) : Nat → Scientific
  | 0 => s
  | fuel + 1 =>
    if s.digits ≠ 0 ∧ s.digits % 10 = 0 then
      Scientific.normal ⟨s.digits / 10, s.exponent + 1⟩ fuel
    else s

/-- The first grid with a hit, from `k` downwards. -/
def Interval.firstHit (tieUp : Nat → Bool) (i : Interval) (k : Int) : Nat → Scientific
  | 0 => ⟨0, 0⟩
  | fuel + 1 =>
    match i.onGrid tieUp k with
    | some c => Scientific.normal ⟨c, k⟩ 20
    | none => i.firstHit tieUp (k - 1) fuel

/-- The decimal with the fewest digits that rounds to the double with these bits, which are those
of a positive finite one. -/
def shortest (tieUp : Nat → Bool) (bits : UInt64) : Scientific :=
  let i := (Binary.ofBits bits).interval
  i.firstHit tieUp (leadingExponent i.value i.den) 18

end FlowConsole.Decimal
