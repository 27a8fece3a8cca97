import FlowConsole.Decimal.Nearest
import FlowConsole.Text.Integer

/-!
# Doubles read from text

The grammar of sample values: an optional sign, then `inf`, `infinity` or `nan` in any case, or
digits with an optional point and an optional exponent. At least one digit stands before the
exponent, on either side of the point. The value is rounded correctly.
-/

namespace FlowConsole.Decimal

/-- Why a text is no number. -/
inductive ReadError
  | empty
  | invalid
  deriving DecidableEq, Repr

/-- The wording of an error. -/
def ReadError.message : ReadError → String
  | .empty => "cannot parse float from empty string"
  | .invalid => "invalid float literal"

/-- The value of a run of decimal digits. -/
def digitsValue (cs : List Char) : Nat :=
  cs.foldl (fun n c => n * 10 + Integer.digitValue c) 0

/-- The double nearest to `n * 10 ^ e`. Exponents so large or so small that the outcome is settled
are not multiplied out. -/
def scaled (n : Nat) (e : Int) : Float :=
  if n = 0 then 0
  else
    let size : Int := (Nat.toDigits 10 n).length + e
    if 400 < size then Float.ofBits 0x7FF0000000000000
    else if size < -400 then 0
    else if 0 ≤ e then nearest (n * Nat.pow 10 e.toNat) 1
    else nearest n (Nat.pow 10 (-e).toNat)

/-- An exponent: an optional sign and at least one digit. -/
def readExponent? (cs : List Char) : Option Int :=
  let negative := cs.head? = some '-'
  let ds := if negative ∨ cs.head? = some '+' then cs.drop 1 else cs
  if ds.isEmpty ∨ !ds.all Char.isDigit then none
  else if negative then some (-(digitsValue ds : Int)) else some (digitsValue ds)

/-- The value of an unsigned decimal literal. -/
def readMagnitude? (cs : List Char) : Option Float :=
  let whole := cs.takeWhile Char.isDigit
  let afterWhole := cs.dropWhile Char.isDigit
  let hasPoint := afterWhole.head? = some '.'
  let afterPoint := if hasPoint then afterWhole.drop 1 else afterWhole
  let fraction := if hasPoint then afterPoint.takeWhile Char.isDigit else []
  let rest := if hasPoint then afterPoint.dropWhile Char.isDigit else afterPoint
  if whole.isEmpty ∧ fraction.isEmpty then none
  else
    let n := digitsValue (whole ++ fraction)
    match rest with
    | [] => some (scaled n (-(fraction.length : Int)))
    | c :: exponent =>
      if c = 'e' ∨ c = 'E' then
        (readExponent? exponent).map fun e => scaled n (e - fraction.length)
      else none

/-- The value of an unsigned number or of the name of a special value. -/
def readUnsigned? (cs : List Char) : Option Float :=
  let lower := cs.map Char.toLower
  if lower = ['i', 'n', 'f'] ∨ lower = ['i', 'n', 'f', 'i', 'n', 'i', 't', 'y'] then
    some (Float.ofBits 0x7FF0000000000000)
  else if lower = ['n', 'a', 'n'] then some (Float.ofBits 0x7FF8000000000000)
  else readMagnitude? cs

/-- Reads a double. -/
def read : List Char → Except ReadError Float
  | [] => .error .empty
  | '-' :: cs => ((readUnsigned? cs).map Float.neg).elim (.error .invalid) .ok
  | '+' :: cs => (readUnsigned? cs).elim (.error .invalid) .ok
  | cs => (readUnsigned? cs).elim (.error .invalid) .ok

end FlowConsole.Decimal
