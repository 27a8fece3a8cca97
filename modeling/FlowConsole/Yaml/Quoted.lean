import FlowConsole.Text.Integer
import FlowConsole.Yaml.Basic

/-!
# Quoted scalars

Between single quotes only a quote is written differently, as two of them. Between double quotes
there are escapes. In both, the blanks around a line's end fold into one space, and empty lines
into line ends; no line in them marks the start or the end of a document.
-/

namespace FlowConsole.Yaml

/-- The character that a number stands for. -/
def codePoint? (ds : List Char) : Option Char :=
  (Text.numeral? 16 ds).bind fun n => if h : n.isValidChar then some (Char.ofNatAux n h) else none

/-- The character of a short escape. -/
def shortEscape? (c : Char) : Option Char :=
  List.lookup c
    [('0', '\x00'), ('a', '\x07'), ('b', '\x08'), ('t', '\t'), ('\t', '\t'), ('n', '\n'),
      ('v', '\x0b'), ('f', '\x0c'), ('r', '\r'), ('e', '\x1b'), (' ', ' '), ('"', '"'), ('/', '/'),
      ('\\', '\\'), ('N', '\u0085'), ('_', '\u00a0'), ('L', '\u2028'), ('P', '\u2029')]

/-- The number of hexadecimal digits of a numeric escape. -/
def escapeWidth? (c : Char) : Option Nat := List.lookup c [('x', 2), ('u', 4), ('U', 8)]

/-- The character of the escape after a backslash, and what follows it. -/
def readEscape? (c : Cursor) : Option (Char × Cursor) :=
  match c.rest with
  | [] => none
  | e :: rest =>
    match escapeWidth? e with
    | none => (shortEscape? e).map fun r => (r, c.next)
    | some width =>
      let ds := rest.take width
      if ds.length < width then none
      else (codePoint? ds).map fun r => (r, c.moveTo (rest.drop width))

/-- The text up to the closing quote, after the text `read`, which is given in reverse. Each step
uses up one unit of fuel and at least one character. -/
def readQuotedRest (quote : Char) (read : List Char) (c : Cursor) :
    Nat → Option (String × Cursor)
  | 0 => none
  | fuel + 1 =>
    if c.atMarker then none
    else
      match c.rest with
      | [] => none
      | ch :: cs =>
        if ch = quote then
          if quote = '\x27' ∧ cs.head? = some quote then
            readQuotedRest quote (quote :: read) c.next.next fuel
          else some (String.ofList read.reverse, c.next)
        else if ch = '\\' ∧ quote = '"' then
          if cs.head?.any isBreak then
            let (breaks, c) := c.next.next.skipBreaks
            readQuotedRest quote (breaks.reverse ++ read) c fuel
          else
            match readEscape? c.next with
            | none => none
            | some (e, c) => readQuotedRest quote (e :: read) c fuel
        else if isBreak ch ∨ isSpace ch then
          let (breaks, next) := c.skipBreaks
          let gap := if breaks.isEmpty then c.rest.takeWhile isSpace else folded breaks
          readQuotedRest quote (gap.reverse ++ read) next fuel
        else readQuotedRest quote (ch :: read) c.next fuel

/-- The text of the quoted scalar at a place, and what follows it. -/
def readQuoted? (c : Cursor) : Option (String × Cursor) :=
  match c.rest with
  | '"' :: _ => readQuotedRest '"' [] c.next c.rest.length
  | '\x27' :: _ => readQuotedRest '\x27' [] c.next c.rest.length
  | _ => none

end FlowConsole.Yaml
