import FlowConsole.Proofs.Regex.Basic
import FlowConsole.Text.Integer
import FlowConsole.Text.Split

/-!
# Reading regular expressions

How the stores read the text of a regular expression, as far as their syntax is used in queries:
characters, escaped signs, dots, brackets, groups, alternatives, repetitions, anchors, and the flag
after which case is ignored up to the end of its group, in later alternatives too. The reader takes
one character at a time, so that what it makes of a text follows from what it makes of the parts
(`Reader.run_of_append`). A text outside the syntax has no reading.
-/

namespace FlowConsole.Regex

/-! ### The reader -/

/-- What the reader is in the middle of. -/
inductive ReadMode
  | plain
  /-- After a backslash. -/
  | escaped
  /-- After an opening parenthesis. -/
  | opened
  /-- After an opening parenthesis and a question mark. -/
  | flag
  /-- After the flag that ignores case. -/
  | ignoring
  /-- Between brackets. -/
  | bracket (read : List Char)
  /-- Between braces. -/
  | brace (read : List Char)
  deriving DecidableEq, Repr

/-- A group whose end has not been read. -/
structure OpenGroup where
  ignoreCase : Bool := false
  /-- The alternatives that have ended. -/
  branches : List Regex := []
  /-- The parts of the current alternative, the last one first. -/
  parts : List Regex := []
  deriving DecidableEq, Repr

/-- What the reader has read. -/
structure Reader where
  group : OpenGroup := {}
  /-- The groups around it, innermost first. -/
  around : List OpenGroup := []
  /-- The last part may be repeated. -/
  repeatable : Bool := false
  mode : ReadMode := .plain
  deriving DecidableEq, Repr

/-- The ranges between brackets. -/
def bracketRanges : List Char → List (Char × Char)
  | low :: '-' :: high :: cs => (low, high) :: bracketRanges cs
  | c :: cs => (c, c) :: bracketRanges cs
  | [] => []

/-- The set between brackets. -/
def bracketSet : List Char → CharSet
  | '^' :: cs => .ranges true (bracketRanges cs)
  | cs => .ranges false (bracketRanges cs)

/-- The least and the greatest number of times between braces. -/
def braceBounds? (cs : List Char) : Option (Nat × Option Nat) :=
  match Text.pieces ',' cs with
  | [count] => if count.isEmpty then none else (Text.numeral? 10 count).map fun n => (n, some n)
  | [least, most] =>
    if least.isEmpty then none
    else if most.isEmpty then (Text.numeral? 10 least).map fun n => (n, none)
    else (Text.numeral? 10 least).bind fun n => (Text.numeral? 10 most).map fun m => (n, some m)
  | _ => none

/-- The current alternative of a group. -/
def OpenGroup.branch (g : OpenGroup) : Regex := sequence g.parts.reverse

/-- The expression of a group that ends. -/
def OpenGroup.close (g : OpenGroup) : Regex := oneOf (g.branches ++ [g.branch])

namespace Reader

/-- Adds a part, which may be repeated. -/
def push (s : Reader) (r : Regex) : Reader :=
  { s with
    group := { s.group with parts := r :: s.group.parts }
    repeatable := true
    mode := .plain }

/-- Repeats the last part. -/
def repeatLast (s : Reader) (least : Nat) (most : Option Nat) : Option Reader :=
  match s.repeatable, s.group.parts with
  | true, r :: rs =>
    some { s with
      group := { s.group with parts := .repeated r least most :: rs }
      repeatable := false
      mode := .plain }
  | _, _ => none

/-- Ends an alternative. -/
def nextBranch (s : Reader) : Reader :=
  { s with
    group := { s.group with branches := s.group.branches ++ [s.group.branch], parts := [] }
    repeatable := false }

/-- Starts a group. -/
def openGroup (s : Reader) : Reader :=
  { s with
    group := { ignoreCase := s.group.ignoreCase }
    around := s.group :: s.around
    repeatable := false
    mode := .plain }

/-- Ends a group. What was said of case in the group ends with it. -/
def closeGroup (s : Reader) : Option Reader :=
  match s.around with
  | [] => none
  | outer :: around => some ({ s with group := outer, around }.push s.group.close)

/-- Adds one character of a set. -/
def pushSet (s : Reader) (set : CharSet) : Reader := s.push (.one s.group.ignoreCase set)

/-- Reads a character outside escapes, brackets and braces. -/
def plainStep (s : Reader) (c : Char) : Option Reader :=
  match c with
  | '\\' => some { s with mode := .escaped }
  | '(' => some { s with mode := .opened }
  | ')' => s.closeGroup
  | '[' => some { s with mode := .bracket [] }
  | '\x7b' => some { s with mode := .brace [] }
  | '|' => some s.nextBranch
  | '^' => some (s.push .start)
  | '$' => some (s.push .stop)
  | '.' => some (s.pushSet .any)
  | '*' => s.repeatLast 0 none
  | '+' => s.repeatLast 1 none
  | '?' => s.repeatLast 0 (some 1)
  | c => some (s.pushSet (.one c))

/-- Reads a character. Letters and digits have meanings of their own after a backslash, and a
bracket stands for itself where no character comes before it. -/
def step (s : Reader) (c : Char) : Option Reader :=
  match s.mode with
  | .plain => s.plainStep c
  | .escaped => if c.isAlphanum || 128 ≤ c.toNat then none else some (s.pushSet (.one c))
  | .opened => if c = '?' then some { s with mode := .flag } else s.openGroup.plainStep c
  | .flag => if c = 'i' then some { s with mode := .ignoring } else none
  | .ignoring =>
    if c = ')' then
      some { s with
        group := { s.group with ignoreCase := true }
        repeatable := false
        mode := .plain }
    else none
  | .bracket read =>
    if c = ']' ∧ read ≠ [] ∧ read ≠ ['^'] then some (s.pushSet (bracketSet read))
    else some { s with mode := .bracket (read ++ [c]) }
  | .brace read =>
    if c = '\x7d' then (braceBounds? read).bind fun b => s.repeatLast b.1 b.2
    else some { s with mode := .brace (read ++ [c]) }

/-- Reads characters in order. -/
def run (s : Reader) (cs : List Char) : Option Reader := cs.foldlM step s

/-- The expression that was read, if all groups have ended. -/
def finish (s : Reader) : Option Regex :=
  if s.mode = .plain ∧ s.around = [] then some s.group.close else none

/-- Nothing is read from no text. -/
theorem run_nil (s : Reader) : s.run [] = some s := rfl

/-- A character is read, and then the rest. -/
theorem run_cons (s : Reader) (c : Char) (cs : List Char) :
    s.run (c :: cs) = (s.step c).bind fun t => t.run cs := List.foldlM_cons

/-- Where a first part is read, the rest is read from there. -/
theorem run_of_append {s t : Reader} {cs : List Char} (h : s.run cs = some t) (ds : List Char) :
    s.run (cs ++ ds) = t.run ds := by
  have happend : s.run (cs ++ ds) = (s.run cs).bind fun t => t.run ds := List.foldlM_append
  rw [happend, h, Option.bind_some]

/-- More parts of the current alternative, the last of which may be repeated or not. -/
def adding (s : Reader) (rs : List Regex) (repeatable : Bool) : Reader :=
  { s with group := { s.group with parts := rs.reverse ++ s.group.parts }, repeatable }

/-- Where case is ignored or not, the characters add parts to the current alternative. -/
def Adds (ignoreCase : Bool) (cs : List Char) (rs : List Regex) : Prop :=
  ∀ s : Reader, s.mode = .plain → s.group.ignoreCase = ignoreCase →
    ∃ repeatable, s.run cs = some (s.adding rs repeatable)

/-- No characters add no parts. -/
theorem adds_nil (ignoreCase : Bool) : Adds ignoreCase [] [] := fun s _ _ => ⟨s.repeatable, rfl⟩

/-- Characters after others add their parts after the others. -/
theorem Adds.append {ignoreCase : Bool} {cs ds : List Char} {rs ss : List Regex}
    (h : Adds ignoreCase cs rs) (h' : Adds ignoreCase ds ss) :
    Adds ignoreCase (cs ++ ds) (rs ++ ss) := by
  intro s hmode hcase
  obtain ⟨first, hfirst⟩ := h s hmode hcase
  obtain ⟨second, hsecond⟩ := h' (s.adding rs first) hmode hcase
  refine ⟨second, ?_⟩
  rw [run_of_append hfirst, hsecond]
  simp only [adding, List.reverse_append, List.append_assoc]

/-- A single character adds a part that may be repeated. -/
theorem adds_of_step {ignoreCase : Bool} {c : Char} {r : Regex}
    (h : ∀ s : Reader, s.mode = .plain → s.group.ignoreCase = ignoreCase →
      s.step c = some (s.push r)) : Adds ignoreCase [c] [r] := by
  intro s hmode hcase
  refine ⟨true, ?_⟩
  rw [run_cons, h s hmode hcase, Option.bind_some, run_nil, push, ← hmode]
  rfl

/-- The sign of the start of a text adds the start. -/
theorem adds_start (ignoreCase : Bool) : Adds ignoreCase ['^'] [.start] :=
  adds_of_step fun s hmode _ => by rw [step, hmode]; rfl

/-- The sign of the end of a text adds the end. -/
theorem adds_stop (ignoreCase : Bool) : Adds ignoreCase ['$'] [.stop] :=
  adds_of_step fun s hmode _ => by rw [step, hmode]; rfl

/-- A dot and a star add any text on one line. -/
theorem adds_anything (ignoreCase : Bool) : Adds ignoreCase ['.', '*'] [.anything ignoreCase] := by
  intro s hmode hcase
  have hdot : s.step '.' = some (s.push (.one ignoreCase .any)) := by
    rw [step, hmode, ← hcase]
    rfl
  have hstar : (s.push (.one ignoreCase .any)).step '*' =
      (s.push (.one ignoreCase .any)).repeatLast 0 none := rfl
  refine ⟨false, ?_⟩
  rw [run_cons, hdot, Option.bind_some, run_cons, hstar, repeatLast, push, ← hmode]
  rfl

/-- The flag of case at the start of an alternative adds nothing, and case is ignored from there. -/
theorem run_ignoreCase {s : Reader} (h : s.mode = .plain) :
    s.run ['(', '?', 'i', ')'] =
      some { s with group := { s.group with ignoreCase := true }, repeatable := false } := by
  have hopen : s.step '(' = some { s with mode := .opened } := by
    rw [step, h]
    rfl
  rw [run_cons, hopen, h]
  rfl

/-- The sign between alternatives ends the current one. -/
theorem step_bar {s : Reader} (h : s.mode = .plain) : s.step '|' = some s.nextBranch := by
  rw [step, h]
  rfl

end Reader

/-- The expression of a text. -/
def read (cs : List Char) : Option Regex := (Reader.run {} cs).bind Reader.finish

/-- How a store compares values with regular expressions: an expression that can be read here
matches the values that its reading matches as a whole. Nothing is said of other expressions. -/
structure Engine where
  folding : CaseFolding
  Matches : String → String → Prop
  matches_iff : ∀ {pattern : String} {r : Regex}, read pattern.toList = some r →
    ∀ value, Matches pattern value ↔ r.MatchesAll folding value.toList

/-- An engine for which only letters of the ASCII range have case, and which takes no expressions
but those that can be read here. -/
def Engine.ascii : Engine where
  folding := .ascii
  Matches pattern value := ∃ r, read pattern.toList = some r ∧ r.MatchesAll .ascii value.toList
  matches_iff := by
    intro pattern r hr value
    rw [hr]
    simp

end FlowConsole.Regex
