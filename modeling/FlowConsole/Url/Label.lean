import FlowConsole.Text.Composition
import FlowConsole.Text.Joining
import FlowConsole.Text.Split
import FlowConsole.Url.Folding
import FlowConsole.Url.Punycode

/-!
# Labels of domain names

A label beyond ASCII is written in ASCII behind a marker. It starts with no mark; the signs that
join letters or keep them apart stand only where letters would join; and in a name with text that
runs from right to left, no label changes its direction.
-/

namespace FlowConsole.Url

open Text (bidiClass)

/-- What an ASCII form of a label starts with. -/
def asciiMarker : List Char := "xn--".toList

/-- A character of ASCII. -/
def isAscii (c : Char) : Bool := c.toNat < 0x80

/-- The sign that joins letters. -/
def joiner : Char := '\u200d'

/-- The sign that keeps letters apart. -/
def nonJoiner : Char := '\u200c'

/-- Letters that would join stand before a place, in reverse order, and after it. -/
def wouldJoin (before after : List Char) : Bool :=
  (before.dropWhile Text.isTransparent).head?.any Text.joinsNext &&
    (after.dropWhile Text.isTransparent).head?.any Text.joinsPrevious

/-- The signs for joining in a text stand where they may: after a sign that joins consonants, and
the one that keeps letters apart also between letters that would join. The text before is given in
reverse order. -/
def haveJoinersPlace (before : List Char) : List Char → Bool
  | [] => true
  | c :: cs =>
    (!(c == joiner || c == nonJoiner) || before.head?.any Text.isVirama ||
      (c == nonJoiner && wouldJoin before cs)) && haveJoinersPlace (c :: before) cs

/-- The text may be a label beyond ASCII. -/
def isLabelText (cs : List Char) : Bool :=
  !cs.head?.any Text.isMark && haveJoinersPlace [] cs

/-- The text has characters that run from right to left. -/
def hasRightToLeft (cs : List Char) : Bool :=
  cs.any fun c => bidiClass c == .rightToLeft || bidiClass c == .arabicNumber

/-- The text keeps the direction of its first character. Text that runs from right to left has no
digits of two kinds, and either direction ends with a letter or a digit before its last marks. -/
def keepsDirection (cs : List Char) : Bool :=
  let classes := cs.map bidiClass
  let last := (classes.reverse.dropWhile (· == .nonspacing)).head?
  match classes.head? with
  | none => true
  | some .leftToRight =>
    (last == some .leftToRight || last == some .europeanNumber) && !hasRightToLeft cs
  | some .rightToLeft =>
    last != some .neutral && !classes.contains .leftToRight &&
      !(classes.contains .europeanNumber && classes.contains .arabicNumber)
  | some _ => false

/-- A label: its text, and how it is written in ASCII. -/
structure Label where
  text : List Char
  ascii : List Char
  deriving DecidableEq, Repr

namespace Label

/-- The most characters of a label beyond ASCII. -/
def maxText : Nat := 1000

/-- The most characters of an ASCII form behind its marker. -/
def maxAscii : Nat := 2000

/-- The label of an ASCII form, given what follows the marker. Its text is one that folding and
composing keep. -/
def ofAscii? (cs : List Char) : Option Label := do
  guard (cs.all isAscii && cs.length ≤ maxAscii && cs.getLast?.any (· ≠ '-'))
  let text ← Punycode.decode? cs
  guard (!text.all isAscii && text.all isFolded && Text.composed text == text && isLabelText text)
  some ⟨text, asciiMarker ++ cs⟩

/-- The label of a folded and composed text. -/
def ofText? (cs : List Char) : Option Label :=
  if asciiMarker.isPrefixOf cs then ofAscii? (cs.drop asciiMarker.length)
  else if cs.all isAscii then some ⟨cs, cs⟩
  else if cs.length ≤ maxText && isLabelText cs then
    some ⟨cs, asciiMarker ++ Punycode.encode cs⟩
  else none

end Label

end FlowConsole.Url
