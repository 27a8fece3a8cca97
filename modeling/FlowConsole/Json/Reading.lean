import FlowConsole.Decimal.Nearest
import FlowConsole.Json.Basic
import FlowConsole.Json.Tree
import FlowConsole.Text.Percent

/-!
# JSON values of trees

A second reading gives the strings and numbers of a tree their values. Strings must be UTF-8 and
their escaped surrogates must come in pairs; numbers must lie in the range of a double; and values
may be nested no deeper than `maxDepth` containers.
-/

namespace FlowConsole.Json

open Utf8 (Bytes)

/-- The bound on nesting: a container inside this many less one others is refused. -/
def maxDepth : Nat := 128

/-- The value of a hexadecimal digit, zero for any other byte. -/
def hexOf (b : UInt8) : Nat := ((Percent.hexValue? b).map UInt8.toNat).getD 0

/-- The value of four hexadecimal digits. -/
def hexOfFour (a b c d : UInt8) : Nat := ((hexOf a * 16 + hexOf b) * 16 + hexOf c) * 16 + hexOf d

/-- The byte that a short escape stands for. -/
def shortEscape (b : UInt8) : UInt8 :=
  if b = 0x62 then 0x08
  else if b = 0x66 then 0x0C
  else if b = 0x6E then 0x0A
  else if b = 0x72 then 0x0D
  else if b = 0x74 then 0x09
  else b

/-- The first half of a surrogate pair. -/
def isHighSurrogate (n : Nat) : Bool := 0xD800 ≤ n && n ≤ 0xDBFF

/-- The second half of a surrogate pair. -/
def isLowSurrogate (n : Nat) : Bool := 0xDC00 ≤ n && n ≤ 0xDFFF

/-- The character of a surrogate pair. -/
def pairChar (high low : Nat) : Char :=
  Char.ofNat (0x10000 + (high - 0xD800) * 0x400 + (low - 0xDC00))

/-- The bytes of a string without its escapes. -/
def unescape : Bytes → Option Bytes
  | [] => some []
  | 0x5C :: 0x75 :: a :: b :: c :: d :: rest =>
    let n := hexOfFour a b c d
    if isHighSurrogate n then
      match rest with
      | 0x5C :: 0x75 :: e :: f :: g :: h :: rest =>
        let m := hexOfFour e f g h
        if isLowSurrogate m then
          (unescape rest).map (String.utf8EncodeChar (pairChar n m) ++ ·)
        else none
      | _ => none
    else if isLowSurrogate n then none
    else (unescape rest).map (String.utf8EncodeChar (Char.ofNat n) ++ ·)
  | 0x5C :: e :: rest => (unescape rest).map (shortEscape e :: ·)
  | b :: rest => (unescape rest).map (b :: ·)

/-- The text of a string as written. -/
def textOf? (raw : Bytes) : Option String :=
  (unescape raw).bind fun bs => (Utf8.decode bs).toOption

/-- The largest integer of 64 bits without sign. -/
def maxUInt64 : Nat := 18446744073709551615

/-- The digits before the point: those that fit in 64 bits as one integer, and the number of digits
that do not. -/
def wholePart (significand : Nat) : List Nat → Nat × Nat
  | [] => (significand, 0)
  | d :: ds =>
    if significand * 10 + d ≤ maxUInt64 then wholePart (significand * 10 + d) ds
    else (significand, ds.length + 1)

/-- The digits after the point, appended as long as they fit, and their number. -/
def fractionPart (significand places : Nat) : List Nat → Nat × Nat
  | [] => (significand, places)
  | d :: ds =>
    if significand * 10 + d ≤ maxUInt64 then fractionPart (significand * 10 + d) (places + 1) ds
    else (significand, places)

/-- Multiplies or divides by a power of ten, `308` places at a time. Infinity is out of range. -/
def scaleTen (x : Float) (e : Int) : Nat → Option Float
  | 0 => some 0
  | fuel + 1 =>
    if e.natAbs ≤ 308 then
      if 0 ≤ e then
        let y := x * Decimal.powerOfTen e.natAbs
        if y.isInf then none else some y
      else some (x / Decimal.powerOfTen e.natAbs)
    else if x == 0 then some x
    else if 0 ≤ e then none
    else scaleTen (x / Decimal.powerOfTen 308) (e + 308) fuel

/-- The number with this significand and decimal exponent, as a double. -/
def floatOf? (isNegative : Bool) (significand : Nat) (e : Int) : Option Number :=
  (scaleTen significand.toUInt64.toFloat e 4).map fun x => .float (if isNegative then -x else x)

/-- The value of the digits of an exponent. -/
def exponentValue (ds : List Nat) : Nat := ds.foldl (fun n d => n * 10 + d) 0

/-- The value of a number without point or exponent whose digits fit in 64 bits. Minus zero and
negative numbers below the range of 64 bits are doubles. -/
def integerOf (isNegative : Bool) (n : Nat) : Number :=
  if !isNegative then .natural n
  else if n = 0 ∨ 9223372036854775808 < n then .float (-n.toUInt64.toFloat)
  else .negative n

/-- The value of a number as written. -/
def Numeral.value? (n : Numeral) : Option Number :=
  let (whole, dropped) := wholePart 0 n.whole
  if n.fraction = none ∧ n.exponent = none ∧ dropped = 0 then some (integerOf n.isNegative whole)
  else
    let (significand, places) := fractionPart whole 0 (n.fraction.getD [])
    let e : Int := (dropped : Int) - places
    match n.exponent with
    | none => floatOf? n.isNegative significand e
    | some (isNegativeExponent, ds) =>
      let exponent := exponentValue ds
      if 2147483647 < exponent then
        if significand ≠ 0 ∧ !isNegativeExponent then none
        else some (.float (if n.isNegative then -0.0 else 0.0))
      else
        floatOf? n.isNegative significand
          (if isNegativeExponent then e - exponent else e + exponent)

mutual

/-- The value of a tree with `room` levels of containers to spare. -/
def Tree.value? (room : Nat) : Tree → Option Json
  | .null => some .null
  | .bool b => some (.bool b)
  | .number n => n.value?.map .number
  | .string raw => (textOf? raw).map .string
  | .array items => if room ≤ 1 then none else (Tree.values? (room - 1) items).map .array
  | .object members =>
    if room ≤ 1 then none
    else (Tree.entries? (room - 1) members).map fun es => .object (Dictionary.ofEntries es)

/-- The values of the items of an array. -/
def Tree.values? (room : Nat) : List Tree → Option (List Json)
  | [] => some []
  | t :: ts =>
    match Tree.value? room t with
    | none => none
    | some v => (Tree.values? room ts).map (v :: ·)

/-- The members of an object in the order they are written. -/
def Tree.entries? (room : Nat) : List (Bytes × Tree) → Option (List (String × Json))
  | [] => some []
  | (key, t) :: ts =>
    match textOf? key, Tree.value? room t with
    | some k, some v => (Tree.entries? room ts).map ((k, v) :: ·)
    | _, _ => none

end

/-- Reads a JSON text. -/
def parse? (bs : Bytes) : Option Json := (Tree.parse? bs).bind (Tree.value? maxDepth)

end FlowConsole.Json
