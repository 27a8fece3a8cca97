import FlowConsole.Decimal.Reading
import FlowConsole.Text.Integer

/-!
# What plain scalars stand for

A plain scalar stands for null, a truth value, an integer or a number if it is written as one, and
for its text otherwise. Integers may be hexadecimal, octal or binary; digits after a leading zero
are a text.
-/

namespace FlowConsole.Yaml.Scalar

/-- The words of null. -/
def isNullWord (text : String) : Bool := ["~", "null", "Null", "NULL"].contains text

/-- The texts of null. -/
def isNull (text : String) : Bool := text == "" || isNullWord text

/-- A truth value. -/
def bool? (text : String) : Option Bool :=
  if ["true", "True", "TRUE"].contains text then some true
  else if ["false", "False", "FALSE"].contains text then some false
  else none

/-- The text without a sign at its start. -/
def unsigned : List Char → List Char
  | '+' :: cs | '-' :: cs => cs
  | cs => cs

/-- The text starts with a sign. -/
def isSigned : List Char → Bool
  | '+' :: _ | '-' :: _ => true
  | _ => false

/-- Digits after a leading zero, which are no number. -/
def isPadded (cs : List Char) : Bool :=
  match unsigned cs with
  | '0' :: d :: ds => (d :: ds).all Char.isDigit
  | _ => false

/-- The value of at least one digit. -/
def digits? (base : Nat) (cs : List Char) : Option Nat :=
  if cs.isEmpty then none else Text.numeral? base cs

/-- The value of an integer without a sign. -/
def magnitude? : List Char → Option Nat
  | '0' :: 'x' :: cs => digits? 16 cs
  | '0' :: 'o' :: cs => digits? 8 cs
  | '0' :: 'b' :: cs => digits? 2 cs
  | cs => if isPadded cs then none else digits? 10 cs

/-- An integer from zero to the bound, which may have a plus sign. -/
def natural? (bound : Nat) (cs : List Char) : Option Nat :=
  let cs := if cs.head? = some '+' then cs.drop 1 else cs
  (magnitude? cs).filter (· ≤ bound)

/-- The magnitude of an integer with a minus sign, up to the bound. -/
def negative? (bound : Nat) (cs : List Char) : Option Nat :=
  if cs.head? = some '-' then (magnitude? (cs.drop 1)).filter (· ≤ bound) else none

/-- The names of infinity. -/
def isInfinity (cs : List Char) : Bool := [".inf", ".Inf", ".INF"].contains (String.ofList cs)

/-- A number with a point or an exponent, or one of the names of what no digits express. -/
def float? (cs : List Char) : Option Float :=
  let positive := if cs.head? = some '+' then cs.drop 1 else cs
  if cs.head? = some '+' ∧ isSigned positive then none
  else if isInfinity positive then some (Float.ofBits 0x7FF0000000000000)
  else if cs.head? = some '-' ∧ isInfinity (cs.drop 1) then some (Float.ofBits 0xFFF0000000000000)
  else if [".nan", ".NaN", ".NAN"].contains (String.ofList cs) then
    some (Float.ofBits 0x7FF8000000000000)
  else (Decimal.read positive).toOption.filter Float.isFinite

end FlowConsole.Yaml.Scalar
