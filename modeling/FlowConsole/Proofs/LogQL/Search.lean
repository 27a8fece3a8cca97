import FlowConsole.LogQL.Line
import FlowConsole.Proofs.LogQL.Patterns
import FlowConsole.Proofs.LogQL.Wildcards
import FlowConsole.Proofs.Regex.Groups
import FlowConsole.Proofs.Text.Characters
import FlowConsole.Text.Word

/-!
# Searching lines

What the store makes of a line filter. Its text is one search of the line or two, for a pattern that
must be found or must not be (`LineFilter.join_render`), and a line is kept if it passes them all.
-/

namespace FlowConsole

open Regex (Denotes)

/-- How a store searches lines by regular expressions: an expression that can be read here is found
in the lines that its reading is found in. Nothing is said of other expressions. -/
structure Regex.Searcher extends Regex.Engine where
  Finds : String → String → Prop
  finds_iff : ∀ {pattern : String} {r : Regex}, Regex.read pattern.toList = some r →
    ∀ line, Finds pattern line ↔ r.Finds folding line.toList

/-- A searcher for which only letters of the ASCII range have case, and which takes no expressions
but those that can be read here. -/
def Regex.Searcher.ascii : Regex.Searcher where
  toEngine := .ascii
  Finds pattern line := ∃ r, Regex.read pattern.toList = some r ∧ r.Finds .ascii line.toList
  finds_iff := by
    intro pattern r hr line
    rw [hr]
    simp [Regex.Engine.ascii]

namespace LogQL

/-! ### Searches -/

/-- A search of the line for a pattern, which must be found or must not be. -/
structure LineSearch where
  wanted : Bool
  pattern : String
  deriving DecidableEq, Repr

namespace LineSearch

/-- The text of a search. -/
def render (s : LineSearch) : String :=
  LineFilter.stage (if s.wanted then "|~" else "!~") s.pattern

/-- The line passes the search. -/
def Keeps (store : Regex.Searcher) (s : LineSearch) (line : String) : Prop :=
  if s.wanted then store.Finds s.pattern line else ¬store.Finds s.pattern line

end LineSearch

namespace LineFilter

/-- The searches of a line filter. -/
def searches (f : LineFilter) : List LineSearch :=
  if f.negated then
    (if !f.allowEmpty && !f.values.isEmpty then [⟨true, f.keyPattern⟩] else []) ++ [⟨false, f.body⟩]
  else [⟨true, f.body⟩]

/-- The text of a line filter is that of its searches. -/
theorem render_eq_searches (f : LineFilter) :
    f.render = String.join (f.searches.map LineSearch.render) := by
  rw [render, searches]
  split
  · split <;> simp [LineSearch.render]
  · simp [LineSearch.render]

/-- The texts of line filters in a row are those of their searches. -/
theorem join_render (fs : List LineFilter) :
    String.join (fs.map render) = String.join ((fs.flatMap searches).map LineSearch.render) := by
  induction fs with
  | nil => rfl
  | cons f fs ih =>
    rw [List.map_cons, String.join_cons, List.flatMap_cons, List.map_append, String.join_append,
      render_eq_searches, ih]

/-- The line passes the searches of a line filter. -/
def Keeps (store : Regex.Searcher) (f : LineFilter) (line : String) : Prop :=
  ∀ s ∈ f.searches, s.Keeps store line

variable {store : Regex.Searcher} {f : LineFilter} {line : String}

/-- A positive line filter keeps the lines that its pattern is found in. -/
theorem keeps_iff_of_positive (h : f.negated = false) :
    f.Keeps store line ↔ store.Finds f.body line := by
  simp [Keeps, searches, h, LineSearch.Keeps]

/-- A negated line filter with values keeps the lines that the field is found in, but none of the
values. -/
theorem keeps_iff_of_negated (h : f.negated = true) (hempty : f.allowEmpty = false)
    (hvalues : f.values ≠ []) :
    f.Keeps store line ↔ store.Finds f.keyPattern line ∧ ¬store.Finds f.body line := by
  simp [Keeps, searches, h, hempty, hvalues, LineSearch.Keeps]

end LineFilter

/-! ### Characters that stand for themselves -/

namespace Atom

/-- Without stars, the patterns of characters denote the characters. -/
theorem denotes_chars {cs : List Char} (h : '*' ∉ cs) : Denotes (cs.flatMap charPattern) (· = cs) :=
  ⟨cs.map (charRegex false), adds_chars false cs, fun _ _ _ _ =>
    matches_chars.trans (fits_iff_eq h)⟩

/-- Characters that are their own patterns denote themselves. -/
theorem denotes_self {cs : List Char} (h : ∀ c ∈ cs, charPattern c = [c]) :
    Denotes cs (· = cs) := by
  have hstar : '*' ∉ cs := fun hmem => absurd (h _ hmem) (by decide)
  have hdenotes := denotes_chars hstar
  rwa [List.flatMap_congr h, List.flatMap_singleton'] at hdenotes

end Atom

namespace LineFilter

variable {f : LineFilter}

/-- The characters of the pattern of a name. -/
theorem toList_keyPattern (f : LineFilter) :
    f.keyPattern.toList = (if f.strict then ['"'] else []) ++ f.key.toList ++ ['"', ':'] := by
  rw [keyPattern]
  cases f.strict <;> simp

/-- The pattern of a name of word characters is made of characters that stand for themselves. -/
theorem charPattern_keyPattern (hkey : Text.Consists Text.isWord f.key) :
    ∀ c ∈ f.keyPattern.toList, Atom.charPattern c = [c] := by
  intro c hc
  rw [toList_keyPattern, List.mem_append, List.mem_append] at hc
  rcases hc with (hc | hc) | hc
  · split at hc
    · rw [List.mem_singleton.mp hc]
      rfl
    · cases hc
  · exact Atom.charPattern_of_isWord (hkey c hc)
  · rw [List.mem_cons, List.mem_singleton] at hc
    rcases hc with rfl | rfl <;> rfl

end LineFilter

end LogQL

end FlowConsole
