import FlowConsole.Text.Utf8

/-!
# The structure of a JSON text

A first reading of a JSON text finds its structure and leaves strings and numbers as they are
written. Bytes between quotes need not be UTF-8 here, escapes need only have the right shape, and
numbers may be of any size: what a reader of the document skips is held to no more than that.
-/

namespace FlowConsole.Json

open Utf8 (Bytes)

/-- A number as it is written, by its decimal digits. -/
structure Numeral where
  isNegative : Bool
  whole : List Nat
  fraction : Option (List Nat)
  /-- The exponent: whether it is negative, and its digits. -/
  exponent : Option (Bool × List Nat)
  deriving DecidableEq, Repr

/-- A JSON text with its strings and numbers as written. -/
inductive Tree
  | null
  | bool (b : Bool)
  | number (n : Numeral)
  | string (raw : Bytes)
  | array (items : List Tree)
  | object (members : List (Bytes × Tree))

namespace Tree

/-- A blank between the tokens. -/
def isBlank (b : UInt8) : Bool := b == 0x20 || b == 0x09 || b == 0x0A || b == 0x0D

/-- The bytes after leading blanks. -/
def skipBlanks (bs : Bytes) : Bytes := bs.dropWhile isBlank

/-- A decimal digit. -/
def isDigit (b : UInt8) : Bool := 0x30 ≤ b && b ≤ 0x39

/-- A hexadecimal digit. -/
def isHexDigit (b : UInt8) : Bool :=
  isDigit b || (0x41 ≤ b && b ≤ 0x46) || (0x61 ≤ b && b ≤ 0x66)

/-- The value of a decimal digit. -/
def digitValue (b : UInt8) : Nat := b.toNat - 0x30

/-- The letters and signs that may follow a backslash, other than `u`. -/
def isShortEscape (b : UInt8) : Bool :=
  b == 0x22 || b == 0x5C || b == 0x2F || b == 0x62 || b == 0x66 || b == 0x6E || b == 0x72 ||
    b == 0x74

/-- The bytes up to the closing quote, and what follows it. -/
def scanString : Bytes → Option (Bytes × Bytes)
  | [] => none
  | 0x22 :: rest => some ([], rest)
  | 0x5C :: 0x75 :: a :: b :: c :: d :: rest =>
    if isHexDigit a && isHexDigit b && isHexDigit c && isHexDigit d then
      (scanString rest).map fun p => (0x5C :: 0x75 :: a :: b :: c :: d :: p.1, p.2)
    else none
  | 0x5C :: e :: rest =>
    if isShortEscape e then (scanString rest).map fun p => (0x5C :: e :: p.1, p.2) else none
  | 0x5C :: [] => none
  | b :: rest => if b < 0x20 then none else (scanString rest).map fun p => (b :: p.1, p.2)

/-- The digits at the start, and what follows them. -/
def scanDigits (bs : Bytes) : List Nat × Bytes :=
  ((bs.takeWhile isDigit).map digitValue, bs.dropWhile isDigit)

/-- The whole part of a number: a zero alone, or digits that start with none. -/
def scanWhole (bs : Bytes) : Option (List Nat × Bytes) :=
  match scanDigits bs with
  | ([], _) => none
  | ([0], rest) => some ([0], rest)
  | (0 :: _ :: _, _) => none
  | (ds, rest) => some (ds, rest)

/-- The fraction of a number, if a point follows. -/
def scanFraction : Bytes → Option (Option (List Nat) × Bytes)
  | 0x2E :: rest =>
    match scanDigits rest with
    | ([], _) => none
    | (ds, rest) => some (some ds, rest)
  | bs => some (none, bs)

/-- The digits of an exponent after its letter, with an optional sign before them. -/
def scanExponentDigits (bs : Bytes) : Option ((Bool × List Nat) × Bytes) :=
  let negative := bs.head? = some 0x2D
  let unsigned := if negative ∨ bs.head? = some 0x2B then bs.drop 1 else bs
  match scanDigits unsigned with
  | ([], _) => none
  | (ds, rest) => some ((negative, ds), rest)

/-- The exponent of a number, if its letter follows. -/
def scanExponent : Bytes → Option (Option (Bool × List Nat) × Bytes)
  | b :: rest =>
    if b = 0x65 ∨ b = 0x45 then (scanExponentDigits rest).map fun p => (some p.1, p.2)
    else some (none, b :: rest)
  | [] => some (none, [])

/-- The number at the start, and what follows it. -/
def scanNumeral (bs : Bytes) : Option (Numeral × Bytes) := do
  let isNegative := bs.head? = some 0x2D
  let (whole, bs) ← scanWhole (if isNegative then bs.drop 1 else bs)
  let (fraction, bs) ← scanFraction bs
  let (exponent, bs) ← scanExponent bs
  return ({ isNegative, whole, fraction, exponent }, bs)

/-- A word or a number at the start, and what follows it. -/
def scanAtom (bs : Bytes) : Option (Tree × Bytes) :=
  match bs with
  | 0x6E :: 0x75 :: 0x6C :: 0x6C :: rest => some (.null, rest)
  | 0x74 :: 0x72 :: 0x75 :: 0x65 :: rest => some (.bool true, rest)
  | 0x66 :: 0x61 :: 0x6C :: 0x73 :: 0x65 :: rest => some (.bool false, rest)
  | _ => (scanNumeral bs).map fun p => (.number p.1, p.2)

mutual

/-- The value after leading blanks, and what follows it. Each step uses up one unit of fuel and at
least one byte. -/
def scanValue : Nat → Bytes → Option (Tree × Bytes)
  | 0, _ => none
  | fuel + 1, bs =>
    match skipBlanks bs with
    | 0x22 :: rest => (scanString rest).map fun p => (.string p.1, p.2)
    | 0x5B :: rest =>
      match skipBlanks rest with
      | 0x5D :: rest => some (.array [], rest)
      | _ => (scanItems fuel rest).map fun p => (.array p.1, p.2)
    | 0x7B :: rest =>
      match skipBlanks rest with
      | 0x7D :: rest => some (.object [], rest)
      | _ => (scanMembers fuel rest).map fun p => (.object p.1, p.2)
    | bs => scanAtom bs

/-- The items of an array up to its closing bracket. -/
def scanItems : Nat → Bytes → Option (List Tree × Bytes)
  | 0, _ => none
  | fuel + 1, bs =>
    match scanValue fuel bs with
    | none => none
    | some (item, rest) =>
      match skipBlanks rest with
      | 0x2C :: rest => (scanItems fuel rest).map fun p => (item :: p.1, p.2)
      | 0x5D :: rest => some ([item], rest)
      | _ => none

/-- The members of an object up to its closing brace. -/
def scanMembers : Nat → Bytes → Option (List (Bytes × Tree) × Bytes)
  | 0, _ => none
  | fuel + 1, bs =>
    match skipBlanks bs with
    | 0x22 :: rest =>
      match scanString rest with
      | none => none
      | some (key, rest) =>
        match skipBlanks rest with
        | 0x3A :: rest =>
          match scanValue fuel rest with
          | none => none
          | some (value, rest) =>
            match skipBlanks rest with
            | 0x2C :: rest => (scanMembers fuel rest).map fun p => ((key, value) :: p.1, p.2)
            | 0x7D :: rest => some ([(key, value)], rest)
            | _ => none
        | _ => none
    | _ => none

end

/-- The tree of a whole text: one value with nothing but blanks around it. -/
def parse? (bs : Bytes) : Option Tree :=
  match scanValue (bs.length + 1) bs with
  | some (tree, rest) => if (skipBlanks rest).isEmpty then some tree else none
  | none => none

end Tree

end FlowConsole.Json
