import FlowConsole.Yaml.Basic

/-!
# Block scalars

A text of whole lines below a header. The lines are indented by as much as the header says, or else
by as much as the first of them that is not blank. After `|` the lines are taken as they are; after
`>` the end of a line between two lines that start without a blank folds into a space. The line
ends at the end of the text are dropped, clipped to one, or kept.
-/

namespace FlowConsole.Yaml

/-- What becomes of the line ends at the end of a block scalar. -/
inductive Chomping
  | strip
  | clip
  | keep
  deriving DecidableEq, Repr

/-- The header of a block scalar: its chomping and how much more its lines are indented. -/
structure BlockHeader where
  chomping : Chomping := .clip
  indent : Option Nat := none

/-- The chomping of an indicator. -/
def Chomping.of? (c : Char) : Option Chomping :=
  if c = '-' then some .strip else if c = '+' then some .keep else none

/-- The indentation of an indicator. -/
def indentOf? (c : Char) : Option Nat :=
  if '1' ≤ c ∧ c ≤ '9' then some (c.toNat - '0'.toNat) else none

/-- The indicators of a header, at most one of each kind, and what follows them. -/
def readHeader : List Char → BlockHeader × List Char
  | [] => ({}, [])
  | c :: cs =>
    match Chomping.of? c, indentOf? c with
    | some chomping, _ =>
      match cs with
      | d :: ds =>
        match indentOf? d with
        | some n => (⟨chomping, some n⟩, ds)
        | none => (⟨chomping, none⟩, cs)
      | [] => (⟨chomping, none⟩, [])
    | none, some n =>
      match cs with
      | d :: ds =>
        match Chomping.of? d with
        | some chomping => (⟨chomping, some n⟩, ds)
        | none => (⟨.clip, some n⟩, cs)
      | [] => (⟨.clip, some n⟩, [])
    | none, none => ({}, c :: cs)

/-- Blank lines: their line ends, the widest line of blanks, and the first line that is not blank.
-/
structure BlankLines where
  breaks : List Char
  widest : Nat
  stop : Cursor

/-- Skips blank lines. With a known indentation no more blanks than that are passed over, and tabs
do not indent. Each step uses up one unit of fuel and at least one character. -/
def skipBlankLines? (indent : Option Nat) (widest : Nat) (c : Cursor) : Nat → Option BlankLines
  | 0 => none
  | fuel + 1 =>
    let inIndent := indent.all (c.column < ·)
    match c.rest with
    | [] => some ⟨[], widest, c⟩
    | ch :: _ =>
      if isBreak ch then
        (skipBlankLines? indent widest c.next fuel).map fun r => { r with breaks := ch :: r.breaks }
      else if inIndent && ch == ' ' then
        skipBlankLines? indent (max widest (c.column + 1)) c.next fuel
      else if inIndent && ch == '\t' then none
      else some ⟨[], widest, c⟩

/-- The text between two lines of a block scalar: `ended` is the end of the earlier line, and
`breaks` those of the blank lines after it. -/
def betweenLines (isFolded : Bool) (ended breaks : List Char) : List Char :=
  if isFolded && ended == ['\n'] then (if breaks.isEmpty then [' '] else breaks)
  else ended ++ breaks

/-- The lines of a block scalar after the text `read`, which is given in reverse. `spaced` tells
whether the line before started with a blank, `ended` is its end, and `breaks` are those of the
blank lines after it. -/
def readLines (isFolded : Bool) (chomping : Chomping) (indent : Nat) (read : List Char)
    (spaced : Bool) (ended breaks : List Char) (c : Cursor) : Nat → Option (String × Cursor)
  | 0 => none
  | fuel + 1 =>
    if c.column = indent ∧ c.rest ≠ [] then
      let isSpaced := c.head?.any isSpace
      let line := c.rest.takeWhile (!isBreak ·)
      let between := betweenLines (isFolded && !spaced && !isSpaced) ended breaks
      let text := line.reverse ++ between.reverse ++ read
      let stop := c.dropWhile (!isBreak ·)
      match skipBlankLines? (some indent) 0 stop.next (stop.rest.length + 1) with
      | none => none
      | some blank =>
        readLines isFolded chomping indent text isSpaced stop.head?.toList blank.breaks blank.stop
          fuel
    else
      let kept := match chomping with
        | .strip => []
        | .clip => ended
        | .keep => ended ++ breaks
      some (String.ofList (kept.reverse ++ read).reverse, c)

/-- The text of the block scalar after its first indicator, inside collections whose entries start
at columns below `least`, and what follows it. -/
def readBlockScalar? (isFolded : Bool) (least : Nat) (c : Cursor) : Option (String × Cursor) := do
  let (header, rest) := readHeader c.rest
  let start ← skipLineEnd? (c.moveTo rest)
  let fuel := start.rest.length + 1
  let indent := header.indent.map (· + (least - 1))
  let blank ← skipBlankLines? indent 0 start fuel
  let indent := indent.getD (max (max blank.widest least) 1)
  readLines isFolded header.chomping indent [] false [] blank.breaks blank.stop fuel

end FlowConsole.Yaml
