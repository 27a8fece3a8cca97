/-!
# The nearest double of a fraction

Rounds a positive fraction to the nearest number with a 53 bit mantissa, a half to the even
neighbour, and packs the result in the 64 bits of a double. All of it is exact arithmetic on
natural numbers.
-/

namespace FlowConsole.Decimal

/-- `num / den` rounded to an integer, a half to the even neighbour. -/
def roundHalfEven (num den : Nat) : Nat :=
  let q := num / den
  let r := num % den
  if 2 * r < den then q else if 2 * r = den then q + q % 2 else q + 1

/-- `num / den` divided by `2 ^ e`, as a numerator and a denominator. -/
def scaleDown (num den : Nat) (e : Int) : Nat × Nat :=
  if 0 ≤ e then (num, den * Nat.pow 2 e.toNat) else (num * Nat.pow 2 (-e).toNat, den)

/-- The least binary exponent of a double. -/
def minExponent : Int := -1074

/-- A first guess of the exponent that gives `num / den` a mantissa of 53 bits. It is right or one
too small, and never below the least exponent. -/
def exponentGuess (num den : Nat) : Int :=
  max minExponent ((Nat.log2 num : Int) - (Nat.log2 den : Int) - 53)

/-- The exponent that gives `num / den` a mantissa of at most 53 bits. -/
def exponentOf (num den : Nat) : Int :=
  let e := exponentGuess num den
  let scaled := scaleDown num den e
  if scaled.1 / scaled.2 < Nat.pow 2 53 then e else e + 1

/-- The bits of the double `mantissa * 2 ^ exponent`, for a mantissa of at most 53 bits or `2 ^ 53`
itself. Exponents beyond the range give infinity. -/
def pack (mantissa : Nat) (exponent : Int) : UInt64 :=
  let m := if mantissa = Nat.pow 2 53 then Nat.pow 2 52 else mantissa
  let e := if mantissa = Nat.pow 2 53 then exponent + 1 else exponent
  if 971 < e then 0x7FF0000000000000
  else if m < Nat.pow 2 52 then m.toUInt64
  else ((e + 1075).toNat * Nat.pow 2 52 + (m - Nat.pow 2 52)).toUInt64

/-- The bits of the double nearest to `num / den`. -/
def nearestBits (num den : Nat) : UInt64 :=
  if num = 0 then 0
  else
    let e := exponentOf num den
    let scaled := scaleDown num den e
    pack (roundHalfEven scaled.1 scaled.2) e

/-- The double nearest to `num / den`. -/
def nearest (num den : Nat) : Float := Float.ofBits (nearestBits num den)

/-- The double nearest to `10 ^ n`. -/
def powerOfTen (n : Nat) : Float := nearest (Nat.pow 10 n) 1

end FlowConsole.Decimal
