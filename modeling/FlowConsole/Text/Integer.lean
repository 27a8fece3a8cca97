/-!
# Numbers in texts

Digits in bases up to sixteen, in either case, without a sign or a marker of the base, and signed
decimal integers of 64 bits. A sign may stand before the digits of these, either `+` or `-`; leading
zeros are allowed. The error tells which rule the text breaks first, read from the left.
-/

namespace FlowConsole.Text

/-- The value of a digit in bases up to sixteen. -/
def digitValue? (c : Char) : Option Nat :=
  if c.isDigit then some (c.toNat - '0'.toNat)
  else if 'a' ≤ c ∧ c ≤ 'f' then some (c.toNat - 'a'.toNat + 10)
  else if 'A' ≤ c ∧ c ≤ 'F' then some (c.toNat - 'A'.toNat + 10)
  else none

/-- The value of digits in a base; zero if there are none. -/
def numeral? (base : Nat) (cs : List Char) : Option Nat :=
  cs.foldlM
    (fun n c => (digitValue? c).bind fun d => if d < base then some (n * base + d) else none) 0

end FlowConsole.Text

namespace FlowConsole.Integer

/-- The largest signed integer of 64 bits. -/
def maxInt64 : Nat := 9223372036854775807

/-- The magnitude of the smallest signed integer of 64 bits. -/
def minInt64Magnitude : Nat := 9223372036854775808

/-- The value fits in a signed integer of 64 bits. -/
def FitsInt64 (n : Int) : Prop := -(minInt64Magnitude : Int) ≤ n ∧ n ≤ (maxInt64 : Int)

instance (n : Int) : Decidable (FitsInt64 n) := inferInstanceAs (Decidable (_ ∧ _))

/-- The value itself if it fits in 64 bits. -/
def checked (n : Int) : Option Int := if FitsInt64 n then some n else none

/-- Why a text is no integer of 64 bits. -/
inductive Error
  | empty
  | invalidDigit
  | tooLarge
  | tooSmall
  deriving DecidableEq, Repr

/-- The wording of an error. -/
def Error.message : Error → String
  | .empty => "cannot parse integer from empty string"
  | .invalidDigit => "invalid digit found in string"
  | .tooLarge => "number too large to fit in target type"
  | .tooSmall => "number too small to fit in target type"

/-- The value of an ASCII digit. -/
def digitValue (c : Char) : Nat := c.toNat - '0'.toNat

/-- Appends the digits to `value`. The first character that is no digit, or that takes the value
above `limit`, decides the error. -/
def readDigits (limit : Nat) (overflow : Error) (value : Nat) : List Char → Except Error Nat
  | [] => .ok value
  | c :: cs =>
    if c.isDigit then
      if value * 10 + digitValue c ≤ limit then
        readDigits limit overflow (value * 10 + digitValue c) cs
      else .error overflow
    else .error .invalidDigit

/-- Reads a signed integer of 64 bits. -/
def read : List Char → Except Error Int
  | [] => .error .empty
  | ['+'] | ['-'] => .error .invalidDigit
  | '+' :: cs => (readDigits maxInt64 .tooLarge 0 cs).map fun n => (n : Int)
  | '-' :: cs => (readDigits minInt64Magnitude .tooSmall 0 cs).map fun n => -(n : Int)
  | cs => (readDigits maxInt64 .tooLarge 0 cs).map fun n => (n : Int)

/-- Reads a signed integer of 64 bits from a string. -/
def parse (s : String) : Except Error Int := read s.toList

end FlowConsole.Integer
