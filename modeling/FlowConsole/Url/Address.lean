import FlowConsole.Text.Integer
import FlowConsole.Text.Split
import FlowConsole.Url.Basic

/-!
# Addresses of hosts

Numeric hosts of version 4 and version 6. A domain whose last part is a number is an address of
version 4: up to four numbers, decimal, octal or hexadecimal, of which the last fills the bytes that
are left. An address of version 6 is eight groups of hexadecimal digits, where one run of zero
groups may be left out and the last two groups may be written as an address of version 4.
-/

namespace FlowConsole.Url

/-- A part of an address of version 4. A marker of the base alone is zero. -/
def part? : List Char → Option Nat
  | [] => none
  | '0' :: 'x' :: cs | '0' :: 'X' :: cs => Text.numeral? 16 cs
  | '0' :: c :: cs => Text.numeral? 8 (c :: cs)
  | cs => Text.numeral? 10 cs

/-- The parts of a domain, without an empty one at the end. -/
def domainParts (domain : List Char) : List (List Char) :=
  let parts := Text.pieces '.' domain
  if parts.getLast? = some [] then parts.dropLast else parts

/-- The last part of the domain is a number, so that the whole must be an address. -/
def endsInNumber (domain : List Char) : Bool :=
  match (domainParts domain).getLast? with
  | none => false
  | some last => (!last.isEmpty && last.all Char.isDigit) || (part? last).isSome

/-- The value of the numbers of an address; the last one fills the bytes that are left. -/
def valueOfParts : List Nat → Nat → Option Nat
  | [], _ => none
  | [n], bytes => if n < Nat.pow 256 bytes then some n else none
  | n :: rest, bytes =>
    if n < 256 then (valueOfParts rest (bytes - 1)).map (n * Nat.pow 256 (bytes - 1) + ·) else none

/-- An address of version 4 as a number. -/
def ipv4? (domain : List Char) : Option Nat :=
  let parts := domainParts domain
  if 4 < parts.length then none else (parts.mapM part?).bind fun ns => valueOfParts ns 4

/-- The four decimal bytes of an address. -/
def renderIpv4 (n : Nat) : List Char :=
  Text.joinPieces '.'
    ([n / 16777216 % 256, n / 65536 % 256, n / 256 % 256, n % 256].map (Nat.toDigits 10))

/-- A decimal byte without leading zeros. -/
def byte? (cs : List Char) : Option Nat :=
  if cs.isEmpty || 3 < cs.length || (1 < cs.length && cs.head? == some '0') then none
  else (Text.numeral? 10 cs).filter (· < 256)

/-- A group of one to four hexadecimal digits. -/
def group? (cs : List Char) : Option Nat :=
  if cs.isEmpty || 4 < cs.length then none else Text.numeral? 16 cs

/-- The groups of pieces between colons. The last piece may be four decimal bytes. -/
def groups? : List (List Char) → Option (List Nat)
  | [] => some []
  | [last] =>
    match (Text.pieces '.' last).mapM byte? with
    | some [a, b, c, d] => some [a * 256 + b, c * 256 + d]
    | _ => (group? last).map fun g => [g]
  | p :: ps => (group? p).bind fun g => (groups? ps).map (g :: ·)

/-- The groups of a text between colons; none if it is empty. -/
def groupsOf? (cs : List Char) : Option (List Nat) :=
  if cs.isEmpty then some [] else groups? (Text.pieces ':' cs)

/-- The text before the first two colons in a row, and the text after them. -/
def cutAtGap? : List Char → Option (List Char × List Char)
  | [] => none
  | ':' :: ':' :: cs => some ([], cs)
  | c :: cs => (cutAtGap? cs).map fun p => (c :: p.1, p.2)

/-- The eight groups of an address of version 6. -/
def ipv6? (cs : List Char) : Option (List Nat) :=
  match cutAtGap? cs with
  | none => (groupsOf? cs).filter fun gs => gs.length = 8
  | some (before, after) =>
    if before.contains '.' then none
    else
      match groupsOf? before, groupsOf? after with
      | some gs, some hs =>
        let count := gs.length + hs.length
        if count ≤ 7 then some (gs ++ List.replicate (8 - count) 0 ++ hs) else none
      | _, _ => none

/-- The number of zeros at the start. -/
def zeroRun (gs : List Nat) : Nat := (gs.takeWhile (· = 0)).length

/-- The length of the longest run of zeros. -/
def longestZeroRun : List Nat → Nat
  | [] => 0
  | g :: gs => max (zeroRun (g :: gs)) (longestZeroRun gs)

/-- The number of groups before the first run of zeros of a length. -/
def beforeRun (length : Nat) : List Nat → Nat
  | [] => 0
  | g :: gs => if zeroRun (g :: gs) = length then 0 else beforeRun length gs + 1

/-- Groups with colons between them. -/
def renderGroups (gs : List Nat) : List Char := Text.joinPieces ':' (gs.map (Nat.toDigits 16))

/-- The groups in brackets; the first of the longest runs of at least two zeros is left out. -/
def renderIpv6 (gs : List Nat) : List Char :=
  let run := longestZeroRun gs
  let inner :=
    if run < 2 then renderGroups gs
    else
      let start := beforeRun run gs
      renderGroups (gs.take start) ++ ':' :: ':' :: renderGroups (gs.drop (start + run))
  '[' :: inner ++ [']']

end FlowConsole.Url
