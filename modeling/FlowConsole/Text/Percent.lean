import FlowConsole.Text.Split
import FlowConsole.Text.Utf8

/-!
# Percent encoding and form encoding

A byte may be written as `%` and two hexadecimal digits. In form encoded text a space is a plus
sign, and parameters are separated by `&`, names from values by `=`.
-/

namespace FlowConsole.Percent

open Utf8 (Bytes)

/-- The value of a hexadecimal digit, in either case. -/
def hexValue? (b : UInt8) : Option UInt8 :=
  if 0x30 ≤ b && b ≤ 0x39 then some (b - 0x30)
  else if 0x41 ≤ b && b ≤ 0x46 then some (b - 0x37)
  else if 0x61 ≤ b && b ≤ 0x66 then some (b - 0x57)
  else none

/-- The hexadecimal digit of a value below sixteen, in upper case. -/
def hexDigit (n : Nat) : Char := Char.ofNat (if n < 10 then 0x30 + n else 0x37 + n)

/-- Replaces each `%` that two hexadecimal digits follow by the byte they name. Any other `%`
stays as it is. -/
def decode : Bytes → Bytes
  | [] => []
  | [a] => [a]
  | [a, b] => [a, b]
  | a :: b :: c :: rest =>
    if a = 0x25 then
      match hexValue? b, hexValue? c with
      | some high, some low => (high * 16 + low) :: decode rest
      | _, _ => a :: decode (b :: c :: rest)
    else a :: decode (b :: c :: rest)

/-- `%` and the two digits of a byte. -/
def encodeByte (b : UInt8) : List Char := ['%', hexDigit (b.toNat / 16), hexDigit (b.toNat % 16)]

/-- Writes each byte of the character as an escape if `reserved` says so. -/
def encodeChar (reserved : Char → Bool) (c : Char) : List Char :=
  if reserved c then (String.utf8EncodeChar c).flatMap encodeByte else [c]

/-- Writes the characters that `reserved` selects as escapes. -/
def encode (reserved : Char → Bool) (cs : List Char) : List Char :=
  cs.flatMap (encodeChar reserved)

/-- The characters that stand for themselves in form encoded text. -/
def isFormSafe (c : Char) : Bool := c.isAlphanum || c == '*' || c == '-' || c == '.' || c == '_'

/-- A name or a value in form encoding. -/
def encodeForm (cs : List Char) : List Char :=
  cs.flatMap fun c => if c = ' ' then ['+'] else encodeChar (fun d => !isFormSafe d) c

/-- The parameters in form encoding. -/
def renderForm (params : List (List Char × List Char)) : List Char :=
  Text.joinPieces '&' (params.map fun p => encodeForm p.1 ++ '=' :: encodeForm p.2)

/-- A name or a value read from form encoding; broken UTF-8 is replaced. -/
def decodeForm (cs : List Char) : String :=
  let spaced := cs.map fun c => if c = '+' then ' ' else c
  Utf8.decodeTolerant (decode (Utf8.encode (String.ofList spaced)))

/-- The parameters of a form encoded text. Empty parameters are skipped; one without `=` has an
empty value. -/
def readForm (cs : List Char) : List (String × String) :=
  ((Text.pieces '&' cs).filter (!·.isEmpty)).map fun p =>
    let nameAndValue := Text.cutOrAll '=' p
    (decodeForm nameAndValue.1, decodeForm nameAndValue.2)

end FlowConsole.Percent
