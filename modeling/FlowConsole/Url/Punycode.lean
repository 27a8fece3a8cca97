/-!
# Punycode

A label of a domain name in ASCII: its ASCII characters, then the others in increasing order of
their code points, each as the number of insertion places passed since the one before it. The
numbers are written with variable length in base 36, in digits below a threshold that ends each of
them.
-/

namespace FlowConsole.Url.Punycode

/-- The digit of a value below 36. -/
def digit (d : Nat) : Char := if d < 26 then Char.ofNat (0x61 + d) else Char.ofNat (0x30 + (d - 26))

/-- The threshold of the digit at position `k`: at least one and at most 26. -/
def threshold (k bias : Nat) : Nat := min 26 (max 1 (k - bias))

/-- Divides by 35 until the value is small. The fuel bounds the number of divisions. -/
def shrink (fuel value k : Nat) : Nat :=
  match fuel with
  | 0 => k
  | fuel + 1 =>
    if 455 < value then shrink fuel (value / 35) (k + 36) else k + 36 * value / (value + 38)

/-- The bias after a number that was the first or not, with that many characters written. -/
def adapt (delta count : Nat) (isFirst : Bool) : Nat :=
  let halved := if isFirst then delta / 700 else delta / 2
  let value := halved + halved / count
  shrink value value 0

/-- The digits of a number. The fuel bounds their count. -/
def digits (fuel bias k q : Nat) : List Char :=
  match fuel with
  | 0 => []
  | fuel + 1 =>
    let t := threshold k bias
    if q < t then [digit q]
    else digit (t + (q - t) % (36 - t)) :: digits fuel bias (k + 36) ((q - t) / (36 - t))

/-- The state of writing the characters beyond ASCII. -/
structure State where
  written : List Char
  delta : Nat
  bias : Nat
  count : Nat

/-- Passes or writes one character of the label in the round of code point `n`. -/
def State.step (basic n : Nat) (s : State) (c : Char) : State :=
  if c.toNat < n then { s with delta := s.delta + 1 }
  else if c.toNat = n then
    { written := s.written ++ digits (s.delta + 1) s.bias 36 s.delta
      delta := 0
      bias := adapt s.delta (s.count + 1) (s.count = basic)
      count := s.count + 1 }
  else s

/-- The rounds of the given code points, in increasing order; `next` is the least code point that
was not passed yet. -/
def rounds (label : List Char) (basic : Nat) : List Nat → Nat → State → State
  | [], _, s => s
  | n :: rest, next, s =>
    let passed := { s with delta := s.delta + (n - next) * (s.count + 1) }
    let s := label.foldl (State.step basic n) passed
    rounds label basic rest (n + 1) { s with delta := s.delta + 1 }

/-- Inserts a number into an increasing list unless it is there. -/
def insertNat (n : Nat) : List Nat → List Nat
  | [] => [n]
  | m :: ms => if n < m then n :: m :: ms else if n = m then m :: ms else m :: insertNat n ms

/-- The ASCII form of a label. -/
def encode (label : List Char) : List Char :=
  let basic := label.filter fun c => c.toNat < 128
  let points := (label.filter fun c => 128 ≤ c.toNat).foldl (fun ns c => insertNat c.toNat ns) []
  let s := rounds label basic.length points 128 ⟨[], 0, 72, basic.length⟩
  basic ++ (if basic.isEmpty then [] else ['-']) ++ s.written

/-- The value of a digit. -/
def digitValue? (c : Char) : Option Nat :=
  if 'a' ≤ c ∧ c ≤ 'z' then some (c.toNat - 'a'.toNat)
  else if c.isDigit then some (c.toNat - '0'.toNat + 26)
  else none

/-- Numbers are limited to 32 bits. -/
def limited (n : Nat) : Option Nat := if n < Nat.pow 2 32 then some n else none

/-- How far an ASCII form has been read. -/
structure Progress where
  /-- The label so far. -/
  text : List Char
  /-- The code point that was inserted last. -/
  point : Nat := 128
  /-- The insertion place after it, and that place moved by the digits of the current number. -/
  start : Nat := 0
  place : Nat := 0
  bias : Nat := 72
  /-- The weight of the next digit, and its position in the number. -/
  weight : Nat := 1
  position : Nat := 36

/-- Inserts the character at the end of a number. -/
def Progress.insert? (p : Progress) (place : Nat) : Option Progress :=
  let count := p.text.length + 1
  let point := p.point + place / count
  let index := place % count
  if point.isValidChar then
    some {
      text := p.text.take index ++ Char.ofNat point :: p.text.drop index
      point
      start := index + 1
      place := index + 1
      bias := adapt (place - p.start) count (p.start = 0) }
  else none

/-- Reads a digit. -/
def Progress.step (p : Progress) (c : Char) : Option Progress := do
  let d ← digitValue? c
  let place ← limited (p.place + d * p.weight)
  let t := threshold p.position p.bias
  if d < t then p.insert? place
  else
    let weight ← limited (p.weight * (36 - t))
    some { p with place, weight, position := p.position + 36 }

/-- The text before the last hyphen and the text after it. A hyphen in front of all else separates
nothing. -/
def cutAtHyphen (cs : List Char) : List Char × List Char :=
  let after := (cs.reverse.takeWhile (· ≠ '-')).reverse
  let basic := cs.take (cs.length - after.length - 1)
  if basic.isEmpty then ([], cs) else (basic, after)

/-- The label of an ASCII form. -/
def decode? (cs : List Char) : Option (List Char) := do
  let (basic, digits) := cutAtHyphen cs
  let p ← digits.foldlM Progress.step { text := basic }
  if p.position = 36 then some p.text else none

end FlowConsole.Url.Punycode
