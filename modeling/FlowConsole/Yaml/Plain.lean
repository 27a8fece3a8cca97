import FlowConsole.Yaml.Basic

/-!
# Plain scalars

A plain scalar ends at a comment, at a colon that a blank follows, and in flow collections at an
indicator. It may go on in further lines, which outside flow collections are indented more than
the collection that holds it.
-/

namespace FlowConsole.Yaml

/-- The indicators that start no plain scalar. -/
def isReserved (c : Char) : Bool :=
  isFlowIndicator c || ['#', '&', '*', '!', '|', '>', '\x27', '"', '%', '@', '\x60'].contains c

/-- A plain scalar may start here. A hyphen, a question mark or a colon starts one only if no blank
follows; in flow collections the latter two never do. -/
def startsPlain (inFlow : Bool) : List Char → Bool
  | [] => false
  | '-' :: cs => !cs.head?.any isSpace
  | '?' :: cs | ':' :: cs => !inFlow && !startsBlank cs
  | c :: _ => !isSpace c && !isBreak c && !isReserved c

/-- A colon before this text is ambiguous in a flow collection. -/
def isAfterStrayColon (cs : List Char) : Bool := cs.head?.any fun c => c == '?' || isFlowIndicator c

/-- The characters up to a blank or to the end of a plain scalar, and what follows them. -/
def plainRun? (inFlow : Bool) : List Char → Option (List Char × List Char)
  | [] => some ([], [])
  | c :: cs =>
    if isSpace c || isBreak c then some ([], c :: cs)
    else if inFlow && c == ':' && isAfterStrayColon cs then none
    else if (c == ':' && startsBlank cs) || (inFlow && isFlowIndicator c) then some ([], c :: cs)
    else (plainRun? inFlow cs).map fun p => (c :: p.1, p.2)

/-- Among the blanks ahead, a tab indents a line to less than the column `least`. The column is
unknown before the first line end. -/
def hasTabIndent (least : Nat) (column : Option Nat) : List Char → Bool
  | [] => false
  | c :: cs =>
    if isBreak c then hasTabIndent least (some 0) cs
    else if isSpace c then
      (c == '\t' && column.any (· < least)) || hasTabIndent least (column.map (· + 1)) cs
    else false

/-- A plain scalar that was read. -/
structure PlainScalar where
  text : String
  /-- What follows the scalar, the blanks and the line ends after it. -/
  stop : Cursor
  /-- There are line ends after it. -/
  endsLine : Bool

/-- The rest of a plain scalar after the text `read`, which is given in reverse and ends at a
place. Each step uses up one unit of fuel and at least one character. -/
def readPlainRest (inFlow : Bool) (least : Nat) (read : List Char) (c : Cursor) :
    Nat → Option PlainScalar
  | 0 => none
  | fuel + 1 =>
    let (breaks, start) := c.skipBreaks
    let gap := if breaks.isEmpty then c.rest.takeWhile isSpace else folded breaks
    let ended : PlainScalar := ⟨String.ofList read.reverse, start, !breaks.isEmpty⟩
    if hasTabIndent least none c.rest then none
    else if (!inFlow && !breaks.isEmpty && start.column < least) || start.atMarker
        || start.head? == some '#' then
      some ended
    else
      match plainRun? inFlow start.rest with
      | none => none
      | some ([], _) => some ended
      | some (run, rest) =>
        readPlainRest inFlow least (run.reverse ++ gap.reverse ++ read) (start.moveTo rest) fuel

/-- The plain scalar at a place, if there is one. -/
def readPlain? (inFlow : Bool) (least : Nat) (c : Cursor) : Option PlainScalar :=
  if startsPlain inFlow c.rest then readPlainRest inFlow least [] c (c.rest.length + 1) else none

end FlowConsole.Yaml
