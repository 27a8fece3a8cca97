/-!
# The text of YAML documents

The characters of documents, the ends of their lines, and places in a text.
-/

namespace FlowConsole.Yaml

/-- The characters of documents. -/
def isAllowed (c : Char) : Bool :=
  c == '\t' || c == '\n' || c == '\r' || (' ' ≤ c && c ≤ '~') || c == '\u0085'
    || ('\u00a0' ≤ c && c != '\ufeff' && c != '\ufffe' && c != '\uffff')

/-- The text with a line feed for every line end but the separators of lines and paragraphs. -/
def withLineFeeds : List Char → List Char
  | [] => []
  | '\r' :: '\n' :: cs => '\n' :: withLineFeeds cs
  | c :: cs => (if c = '\r' ∨ c = '\u0085' then '\n' else c) :: withLineFeeds cs

/-- The text of a document as it is read: without a byte order mark, and with line feeds. -/
def normalized? (text : List Char) : Option (List Char) :=
  let text := if text.head? = some '\ufeff' then text.drop 1 else text
  if text.all isAllowed then some (withLineFeeds text) else none

/-- A space or a tab. -/
def isSpace (c : Char) : Bool := c == ' ' || c == '\t'

/-- The end of a line: a line feed, or a separator of lines or paragraphs. -/
def isBreak (c : Char) : Bool := c == '\n' || c == '\u2028' || c == '\u2029'

/-- A character of names: of anchors, of directives, and between the marks of a tag's handle. -/
def isNameChar (c : Char) : Bool := c.isAlphanum || c == '_' || c == '-'

/-- A text that starts with a blank or a line's end, or is at its end. -/
def startsBlank (cs : List Char) : Bool := cs.head?.all fun c => isSpace c || isBreak c

/-- A text that starts with a line's end, or is at its end. -/
def startsBreak (cs : List Char) : Bool := cs.head?.all isBreak

/-- A character that structures flow collections. -/
def isFlowIndicator (c : Char) : Bool :=
  c == ',' || c == '[' || c == ']' || c == '\x7b' || c == '\x7d'

/-- A place in a text: what follows, and the line and the column, both from zero. -/
structure Cursor where
  rest : List Char
  line : Nat := 0
  column : Nat := 0

namespace Cursor

/-- The place after the next character. -/
def next (c : Cursor) : Cursor :=
  match c.rest with
  | [] => c
  | ch :: cs => if isBreak ch then ⟨cs, c.line + 1, 0⟩ else ⟨cs, c.line, c.column + 1⟩

/-- The place after the characters of the same line up to `rest`. -/
def moveTo (c : Cursor) (rest : List Char) : Cursor :=
  ⟨rest, c.line, c.column + (c.rest.length - rest.length)⟩

/-- The place after the next characters that satisfy `p`, which no line's end does. -/
def dropWhile (p : Char → Bool) (c : Cursor) : Cursor := c.moveTo (c.rest.dropWhile p)

/-- The character at the place. -/
def head? (c : Cursor) : Option Char := c.rest.head?

/-- A line that marks the start or the end of a document. -/
def atMarker (c : Cursor) : Bool :=
  c.column = 0 &&
    match c.rest with
    | '-' :: '-' :: '-' :: cs | '.' :: '.' :: '.' :: cs => startsBlank cs
    | _ => false

end Cursor

/-- Skips blanks and line ends. Gives the line ends, and the place after them. -/
def skipBreaksFrom (line column : Nat) : List Char → List Char × Cursor
  | [] => ([], ⟨[], line, column⟩)
  | c :: cs =>
    if isBreak c then
      let r := skipBreaksFrom (line + 1) 0 cs
      (c :: r.1, r.2)
    else if isSpace c then skipBreaksFrom line (column + 1) cs
    else ([], ⟨c :: cs, line, column⟩)

/-- The line ends that follow, with the blanks around them. -/
def Cursor.skipBreaks (c : Cursor) : List Char × Cursor := skipBreaksFrom c.line c.column c.rest

/-- The text of line ends within a scalar. A single line feed is a space; of several line ends, the
first is left out if it is a line feed. -/
def folded : List Char → List Char
  | ['\n'] => [' ']
  | '\n' :: breaks => breaks
  | breaks => breaks

/-- The rest of a line after blanks, if there is only a comment. -/
def skipLineEnd? (c : Cursor) : Option Cursor :=
  let c := c.dropWhile isSpace
  let c := if c.head? = some '#' then c.dropWhile (!isBreak ·) else c
  if startsBreak c.rest then some c.next else none

end FlowConsole.Yaml
