import FlowConsole.Yaml.BlockScalar
import FlowConsole.Yaml.Plain
import FlowConsole.Yaml.Quoted
import FlowConsole.Yaml.Tag

/-!
# Tokens of documents

A text is cut into tokens. Block collections are told by columns: an entry that stands further to
the right than those of the open collections opens a collection, and what stands further to the left
closes them. A key need not be marked if its colon follows on the same line, so the place of the
last token that may start such a key is kept until the colon comes or cannot come any more.
-/

namespace FlowConsole.Yaml

/-- How a scalar is written. -/
inductive Style
  | plain
  | quoted
  | literal
  | folded
  deriving DecidableEq, Repr

/-- A token. -/
inductive Token
  | version (major minor : Nat)
  | handle (name : List Char) (start : Utf8.Bytes)
  | documentStart
  | documentEnd
  | blockSequence
  | blockMapping
  | blockEnd
  | flowSequence
  | flowSequenceEnd
  | flowMapping
  | flowMappingEnd
  | item
  | comma
  | key
  | value
  | alias (name : List Char)
  | anchor (name : List Char)
  | tag (text : TagText)
  | scalar (style : Style) (text : String)
  deriving DecidableEq, Repr

/-- A token that may start a key. -/
structure KeyStart where
  /-- The number of tokens before it. -/
  index : Nat
  line : Nat
  column : Nat
  /-- It stands where only a key may stand. -/
  isRequired : Bool

/-- The most characters that a key takes before its colon. -/
def maxKeyLength : Nat := 1024

/-- How far a text has been cut. -/
structure Lexer where
  cursor : Cursor
  /-- The tokens so far, in reverse, and their number. -/
  tokens : List Token := []
  count : Nat := 0
  /-- The columns of the open block collections, the innermost first. -/
  columns : List Nat := []
  /-- The token that may start a key in the innermost collection. -/
  keyStart : Option KeyStart := none
  /-- Such tokens of the collections around the open flow collections. -/
  outerKeyStarts : List (Option KeyStart) := []
  /-- A key may start here. -/
  mayStartKey : Bool := true

/-- Skips blanks, comments and line ends. Outside flow collections a key may start on a new line,
and where a key may start, tabs are no blanks. -/
def skipFrom (inFlow mayStartKey inComment : Bool) (line column : Nat) :
    List Char → Cursor × Bool
  | [] => (⟨[], line, column⟩, mayStartKey)
  | c :: cs =>
    if isBreak c then skipFrom inFlow (mayStartKey || !inFlow) false (line + 1) 0 cs
    else if inComment || c == ' ' || (c == '\t' && (inFlow || !mayStartKey)) then
      skipFrom inFlow mayStartKey inComment line (column + 1) cs
    else if c == '#' then skipFrom inFlow mayStartKey true line (column + 1) cs
    else (⟨c :: cs, line, column⟩, mayStartKey)

/-- A name at a place, and what follows it. -/
def nameAt (c : Cursor) : List Char × Cursor :=
  (c.rest.takeWhile isNameChar, c.dropWhile isNameChar)

/-- A character that may follow the name of an anchor. -/
def endsAnchor (cs : List Char) : Bool :=
  startsBlank cs || cs.head?.any fun c => "?:,]\x7d%@\x60".toList.contains c

/-- The name of an anchor, and what follows it. -/
def readAnchor? (c : Cursor) : Option (List Char × Cursor) :=
  let (name, c) := nameAt c
  if name.isEmpty || !endsAnchor c.rest then none else some (name, c)

/-- A number of at most nine digits, and what follows it. -/
def readVersionPart? (c : Cursor) : Option (Nat × Cursor) :=
  let digits := c.rest.takeWhile Char.isDigit
  if digits.isEmpty || 9 < digits.length then none
  else (Text.numeral? 10 digits).map fun n => (n, c.dropWhile Char.isDigit)

/-- The version after the name of its directive. -/
def readVersion? (c : Cursor) : Option (Token × Cursor) := do
  let (major, c) ← readVersionPart? (c.dropWhile isSpace)
  guard (c.head? == some '.')
  let (minor, c) ← readVersionPart? c.next
  some (.version major minor, c)

/-- The handle and what it stands for, after the name of their directive. -/
def readHandleDirective? (c : Cursor) : Option (Token × Cursor) := do
  let c := c.dropWhile isSpace
  let (name, rest) ← readHandle? c.rest
  guard (name == ['!'] || (1 < name.length && name.getLast? == some '!'))
  guard (rest.head?.any isSpace)
  let (start, rest) ← addressOf? true (rest.dropWhile isSpace)
  guard (!start.isEmpty && startsBlank rest)
  some (.handle name start, c.moveTo rest)

/-- The directive at a place, which takes a line. -/
def readDirective? (c : Cursor) : Option (Token × Cursor) := do
  let (name, c) := nameAt c.next
  guard (startsBlank c.rest)
  let (token, c) ←
    if name = "YAML".toList then readVersion? c
    else if name = "TAG".toList then readHandleDirective? c
    else none
  (skipLineEnd? c).map fun c => (token, c)

namespace Lexer

/-- The cursor stands in a flow collection. -/
def inFlow (l : Lexer) : Bool := !l.outerKeyStarts.isEmpty

/-- The least column of what belongs to the innermost block collection. -/
def leastColumn (l : Lexer) : Nat := (l.columns.head?.map (· + 1)).getD 0

/-- Adds a token that ends at a place. -/
def push (l : Lexer) (t : Token) (c : Cursor) : Lexer :=
  { l with tokens := t :: l.tokens, count := l.count + 1, cursor := c }

/-- Adds a token before the one of the given index. -/
def insertAt (l : Lexer) (index : Nat) (t : Token) : Lexer :=
  let later := l.count - index
  { l with tokens := l.tokens.take later ++ t :: l.tokens.drop later, count := l.count + 1 }

/-- Opens a block collection at a column, if it lies to the right of the open ones, with a token
before the one of the given index. -/
def openBlock (l : Lexer) (column index : Nat) (t : Token) : Lexer :=
  if !l.inFlow && l.columns.head?.all (· < column) then
    { l.insertAt index t with columns := column :: l.columns }
  else l

/-- Closes the block collections for which `p` holds of their columns, from the innermost one up to
the first for which it does not. -/
def closeBlocks (l : Lexer) (p : Nat → Bool) : Lexer :=
  if l.inFlow then l
  else
    let closed := l.columns.takeWhile p
    { l with
      tokens := closed.map (fun _ => .blockEnd) ++ l.tokens
      count := l.count + closed.length
      columns := l.columns.dropWhile p }

/-- The token that may start a key cannot do so any more. -/
def dropKeyStart? (l : Lexer) : Option Lexer :=
  if l.keyStart.any (·.isRequired) then none else some { l with keyStart := none }

/-- The next token may start a key. -/
def saveKeyStart? (l : Lexer) : Option Lexer :=
  let c := l.cursor
  if l.mayStartKey then
    l.dropKeyStart?.map fun l =>
      { l with keyStart := some {
          index := l.count
          line := c.line
          column := c.column
          isRequired := !l.inFlow && l.columns.head? == some c.column } }
  else some l

/-- The token started no key: its line has ended, or it lies too far back. -/
def isStale (c : Cursor) (k : KeyStart) : Bool :=
  k.line < c.line || k.column + maxKeyLength < c.column

/-- Forgets the tokens that started no keys. -/
def dropStale? (l : Lexer) : Option Lexer :=
  let isStale (k : Option KeyStart) : Bool := k.any (isStale l.cursor)
  let isMissing (k : Option KeyStart) : Bool := isStale k && k.any (·.isRequired)
  let kept (k : Option KeyStart) : Option KeyStart := if isStale k then none else k
  if isMissing l.keyStart || l.outerKeyStarts.any isMissing then none
  else some { l with
    keyStart := kept l.keyStart
    outerKeyStarts := l.outerKeyStarts.map kept }

/-- The next place where a token starts. -/
def skip (l : Lexer) : Lexer :=
  let c := l.cursor
  let (cursor, mayStartKey) := skipFrom l.inFlow l.mayStartKey false c.line c.column c.rest
  { l with cursor, mayStartKey }

/-- Closes all block collections in front of a document's start or end, or of a directive. -/
def leaveDocument? (l : Lexer) : Option Lexer :=
  (l.closeBlocks fun _ => true).dropKeyStart?.map fun l => { l with mayStartKey := false }

/-- Reads a directive. -/
def readDirective? (l : Lexer) : Option Lexer := do
  let l ← l.leaveDocument?
  let (token, c) ← Yaml.readDirective? l.cursor
  some (l.push token c)

/-- Reads the marker of a document's start or end. -/
def readMarker? (l : Lexer) : Option Lexer :=
  l.leaveDocument?.map fun l =>
    l.push (if l.cursor.head? = some '-' then .documentStart else .documentEnd)
      (l.cursor.moveTo (l.cursor.rest.drop 3))

/-- Opens a flow collection, which may itself be a key. -/
def openFlow? (l : Lexer) (t : Token) : Option Lexer :=
  l.saveKeyStart?.map fun l =>
    { l.push t l.cursor.next with
      keyStart := none
      outerKeyStarts := l.keyStart :: l.outerKeyStarts
      mayStartKey := true }

/-- Closes the innermost flow collection. -/
def closeFlow? (l : Lexer) (t : Token) : Option Lexer :=
  l.dropKeyStart?.map fun l =>
    { l.push t l.cursor.next with
      keyStart := l.outerKeyStarts.head?.join
      outerKeyStarts := l.outerKeyStarts.tail
      mayStartKey := false }

/-- Reads a comma, after which a key may start. -/
def readComma? (l : Lexer) : Option Lexer :=
  l.dropKeyStart?.map fun l => { l.push .comma l.cursor.next with mayStartKey := true }

/-- Opens a block collection at the place of an indicator, which must be one where a key may
start. -/
def openAtIndicator? (l : Lexer) (t : Token) : Option Lexer :=
  if l.inFlow then some l
  else if l.mayStartKey then some (l.openBlock l.cursor.column l.count t)
  else none

/-- Reads the indicator of an item. -/
def readItem? (l : Lexer) : Option Lexer := do
  let l ← (← l.openAtIndicator? .blockSequence).dropKeyStart?
  some { l.push .item l.cursor.next with mayStartKey := true }

/-- Reads the indicator of a key. -/
def readKey? (l : Lexer) : Option Lexer := do
  let l ← (← l.openAtIndicator? .blockMapping).dropKeyStart?
  some { l.push .key l.cursor.next with mayStartKey := !l.inFlow }

/-- Reads the indicator of a value. What may have been a key before it is one. -/
def readValue? (l : Lexer) : Option Lexer :=
  match l.keyStart with
  | some k =>
    let l := (l.insertAt k.index .key).openBlock k.column k.index .blockMapping
    some { l.push .value l.cursor.next with keyStart := none, mayStartKey := false }
  | none =>
    (l.openAtIndicator? .blockMapping).map fun l =>
      { l.push .value l.cursor.next with mayStartKey := !l.inFlow }

/-- Adds a token that may start a key, given how it is read. -/
def readNamed? (l : Lexer) (read : Cursor → Option (Token × Cursor)) : Option Lexer := do
  let l ← l.saveKeyStart?
  let (token, c) ← read l.cursor
  some { l.push token c with mayStartKey := false }

/-- Reads a block scalar. -/
def readBlock? (l : Lexer) (style : Style) : Option Lexer := do
  let l ← l.dropKeyStart?
  let (text, c) ← readBlockScalar? (style = .folded) l.leastColumn l.cursor.next
  some { l.push (.scalar style text) c with mayStartKey := true }

/-- Reads a plain scalar, which may be a key. -/
def readPlain? (l : Lexer) : Option Lexer := do
  let l ← l.saveKeyStart?
  let p ← Yaml.readPlain? l.inFlow l.leastColumn l.cursor
  some { l.push (.scalar .plain p.text) p.stop with mayStartKey := p.endsLine }

/-- Reads the token that starts with a character; `rest` is the text after it. -/
def readToken? (l : Lexer) (ch : Char) (rest : List Char) : Option Lexer :=
  let c := l.cursor
  if ch = '%' ∧ c.column = 0 then l.readDirective?
  else if c.atMarker then l.readMarker?
  else if ch = '[' then l.openFlow? .flowSequence
  else if ch = '\x7b' then l.openFlow? .flowMapping
  else if ch = ']' then l.closeFlow? .flowSequenceEnd
  else if ch = '\x7d' then l.closeFlow? .flowMappingEnd
  else if ch = ',' then l.readComma?
  else if ch = '-' ∧ startsBlank rest then l.readItem?
  else if ch = '?' ∧ (l.inFlow ∨ startsBlank rest) then l.readKey?
  else if ch = ':' ∧ (l.inFlow ∨ startsBlank rest) then l.readValue?
  else if ch = '*' then
    l.readNamed? fun c => (readAnchor? c.next).map fun p => (.alias p.1, p.2)
  else if ch = '&' then
    l.readNamed? fun c => (readAnchor? c.next).map fun p => (.anchor p.1, p.2)
  else if ch = '!' then l.readNamed? fun c => (readTag? l.inFlow c).map fun p => (.tag p.1, p.2)
  else if ch = '|' ∧ !l.inFlow then l.readBlock? .literal
  else if ch = '>' ∧ !l.inFlow then l.readBlock? .folded
  else if ch = '"' ∨ ch = '\x27' then
    l.readNamed? fun c => (readQuoted? c).map fun p => (.scalar .quoted p.1, p.2)
  else l.readPlain?

/-- The tokens of the rest of a text. Each token uses up one unit of fuel and at least one
character. -/
def run? (l : Lexer) : Nat → Option (List Token)
  | 0 => none
  | fuel + 1 =>
    match l.skip.dropStale? with
    | none => none
    | some l =>
      let column := l.cursor.column
      let l := l.closeBlocks (column < ·)
      match l.cursor.rest with
      | [] => l.leaveDocument?.map fun l => l.tokens.reverse
      | ch :: rest =>
        match l.readToken? ch rest with
        | none => none
        | some l => l.run? fuel

end Lexer

/-- The tokens of a text. -/
def tokens? (text : List Char) : Option (List Token) :=
  Lexer.run? { cursor := ⟨text, 0, 0⟩ } (text.length + 1)

end FlowConsole.Yaml
