import FlowConsole.Text.Integer
import FlowConsole.Text.Split

/-!
# Tables of texts

A table gives texts for code points. A row of it starts with a code point and goes on with the texts
of this and of the following code points, with spaces between them. A text is code points with plus
signs between them, and a hyphen stands for no text. All code points are hexadecimal.
-/

namespace FlowConsole.Text

/-- The texts of consecutive code points. -/
structure CodeRow where
  first : Nat
  texts : List (Option (List Char))

/-- Texts of code points, in rows. -/
abbrev CodeTable := List CodeRow

/-- The code point of hexadecimal digits. -/
def readCode? (cs : List Char) : Option Char :=
  if cs.isEmpty then none else (numeral? 16 cs).map Char.ofNat

namespace CodeRow

/-- Reads a row. -/
def ofString (row : String) : CodeRow :=
  match pieces ' ' row.toList with
  | [] => ⟨0, []⟩
  | first :: texts =>
    ⟨(numeral? 16 first).getD 0, texts.map fun text => (pieces '+' text).mapM readCode?⟩

/-- The text of a character. -/
def find? (r : CodeRow) (c : Char) : Option (List Char) :=
  if c.toNat < r.first then none else (r.texts[c.toNat - r.first]?).join

/-- The characters that have a text, with their texts. -/
def toList (r : CodeRow) : List (Char × List Char) :=
  r.texts.zipIdx.filterMap fun e => e.1.map fun text => (Char.ofNat (r.first + e.2), text)

end CodeRow

namespace CodeTable

/-- Reads a table. -/
def ofStrings (rows : List String) : CodeTable := rows.map CodeRow.ofString

/-- The text of a character. -/
def find? (t : CodeTable) (c : Char) : Option (List Char) := t.findSome? (·.find? c)

/-- The characters that have a text, with their texts. -/
def toList (t : CodeTable) : List (Char × List Char) := t.flatMap CodeRow.toList

end CodeTable

end FlowConsole.Text
