import FlowConsole.Decimal.Shortest
import FlowConsole.Text.Integer

/-!
# Decimal texts of doubles

Two notations. Sample values are positional whatever their size and have no point when they are
whole. Numbers of a JSON text always show that they are no integers, by a point or an exponent,
and leave positional notation for very large and very small magnitudes.
-/

namespace FlowConsole.Decimal

/-- The decimal digits of a natural number. -/
def digitsOf (n : Nat) : List Char := Nat.toDigits 10 n

/-- `n` zeros. -/
def zeros (n : Nat) : List Char := List.replicate n '0'

/-- The sign of a double: a minus for negative numbers and for negative zero. -/
def signOf (x : Float) : List Char := if x.toBits ≥ 0x8000000000000000 then ['-'] else []

/-- The bits without the sign. -/
def magnitudeBits (x : Float) : UInt64 := x.toBits &&& 0x7FFFFFFFFFFFFFFF

/-- A decimal in positional notation, without a point when it is whole. -/
def Scientific.positional (s : Scientific) : List Char :=
  let ds := digitsOf s.digits
  if 0 ≤ s.exponent then ds ++ zeros s.exponent.toNat
  else
    let places := (-s.exponent).toNat
    if places < ds.length then ds.take (ds.length - places) ++ '.' :: ds.drop (ds.length - places)
    else '0' :: '.' :: zeros (places - ds.length) ++ ds

/-- The text of a sample value. A tie between two shortest decimals goes up. -/
def sampleText (x : Float) : String :=
  if x.isNaN then "NaN"
  else if x.isInf then if x > 0 then "+Inf" else "-Inf"
  else if x == 0 then String.ofList (signOf x ++ ['0'])
  else String.ofList (signOf x ++ (shortest (fun _ => true) (magnitudeBits x)).positional)

/-- The exponent part of scientific notation, always with a sign. -/
def exponentText (e : Int) : List Char := 'e' :: (if e < 0 then '-' else '+') :: digitsOf e.natAbs

/-- A decimal as a JSON text shows it: positional while the point lies among or next to the first
sixteen digits, or at most five places before them; scientific otherwise. -/
def Scientific.json (s : Scientific) : List Char :=
  let ds := digitsOf s.digits
  let point : Int := ds.length + s.exponent
  if 0 ≤ s.exponent ∧ point ≤ 16 then ds ++ zeros s.exponent.toNat ++ ['.', '0']
  else if 0 < point ∧ point ≤ 16 then ds.take point.toNat ++ '.' :: ds.drop point.toNat
  else if -5 < point ∧ point ≤ 0 then '0' :: '.' :: zeros (-point).toNat ++ ds
  else if ds.length = 1 then ds ++ exponentText (point - 1)
  else ds.take 1 ++ '.' :: ds.drop 1 ++ exponentText (point - 1)

/-- The text of a finite number in a JSON text. A tie between two shortest decimals goes to the
even one. -/
def jsonText (x : Float) : String :=
  if x == 0 then String.ofList (signOf x ++ ['0', '.', '0'])
  else
    String.ofList (signOf x ++ (shortest (fun c => c % 2 = 1) (magnitudeBits x)).json)

end FlowConsole.Decimal
