import FlowConsole.Text.Split
import Mathlib.Data.List.TakeWhile

/-!
# Parser combinators

A parser reads a part at the start of a text, or refuses the text and says where and why. A list of
items with separators between them ends before the first separator that no item follows. Where the
items are all that stands between the separators, the list is what cutting at the separators gives
(`separated_eq_pieces`).
-/

namespace FlowConsole.Text

/-- Why a parser refuses a text. -/
inductive ParseFault
  /-- Characters were to be taken, and there are none. -/
  | nothingTaken
  /-- Another character stands where one was expected. -/
  | otherCharacter
  /-- A separator and an item that are empty. -/
  | emptyItem
  /-- The text goes on where it was to end. -/
  | notAtEnd
  deriving DecidableEq, Repr

/-- Where a text is refused, and why. -/
structure ParseError where
  rest : List Char
  fault : ParseFault
  deriving DecidableEq, Repr

/-- What is read at the start of a text, and what follows it. -/
abbrev Parser (α : Type) := List Char → Except ParseError (α × List Char)

namespace Parser

variable {α β γ : Type}

/-- The characters before the first one that satisfies `stop`; there may be none. -/
def takeTill (stop : Char → Bool) : Parser (List Char) := fun cs =>
  .ok (cs.takeWhile fun c => !stop c, cs.dropWhile fun c => !stop c)

/-- The characters before the first one that satisfies `stop`, of which there has to be one. -/
def takeTill1 (stop : Char → Bool) : Parser (List Char) := fun cs =>
  match takeTill stop cs with
  | .ok ([], _) => .error ⟨cs, .nothingTaken⟩
  | taken => taken

/-- The character. -/
def char (c : Char) : Parser Char
  | [] => .error ⟨[], .otherCharacter⟩
  | d :: cs => if d = c then .ok (d, cs) else .error ⟨d :: cs, .otherCharacter⟩

/-- All that follows. -/
def rest : Parser (List Char) := fun cs => .ok (cs, [])

/-- What two parsers read with a separator between them. -/
def separatedPair (first : Parser α) (separator : Parser β) (second : Parser γ) :
    Parser (α × γ) := fun cs => do
  let (a, cs) ← first cs
  let (_, cs) ← separator cs
  let (c, cs) ← second cs
  return ((a, c), cs)

/-- Further items, each after a separator. The list ends before the first separator that no item
follows; a separator and an item that take nothing of the text are refused. -/
def further (separator : Parser β) (item : Parser α) (cs : List Char) :
    Except ParseError (List α × List Char) :=
  match separator cs with
  | .error _ => .ok ([], cs)
  | .ok (_, afterSeparator) =>
    match item afterSeparator with
    | .error _ => .ok ([], cs)
    | .ok (a, rest) =>
      if rest.length < cs.length then
        (further separator item rest).map fun p => (a :: p.1, p.2)
      else .error ⟨cs, .emptyItem⟩
termination_by cs.length

/-- One item or more, with separators between them. -/
def separated (separator : Parser β) (item : Parser α) : Parser (List α) := fun cs =>
  match item cs with
  | .error e => .error e
  | .ok (a, rest) => (further separator item rest).map fun p => (a :: p.1, p.2)

/-- What a parser reads, if nothing follows it. -/
def whole (p : Parser α) (cs : List Char) : Except ParseError α := do
  let (a, rest) ← p cs
  if rest.isEmpty then return a else .error ⟨rest, .notAtEnd⟩

/-! ### Parts before a separator -/

/-- Up to a separator that the text does not hold, all of it is taken. -/
theorem takeTill_of_not_mem {separator : Char} {cs : List Char} (h : separator ∉ cs) :
    takeTill (· == separator) cs = .ok (cs, []) := by
  have hpass : ∀ c ∈ cs, (!(c == separator)) = true := fun c hc => by
    simp [ne_of_mem_of_not_mem hc h]
  rw [takeTill, List.takeWhile_eq_self_iff.mpr hpass, List.dropWhile_eq_nil_iff.mpr hpass]

/-- What stands before the first separator is taken. -/
theorem takeTill_append {separator : Char} {before : List Char} (h : separator ∉ before)
    (after : List Char) :
    takeTill (· == separator) (before ++ separator :: after) =
      .ok (before, separator :: after) := by
  have hpass : ∀ c ∈ before, (!(c == separator)) = true := fun c hc => by
    simp [ne_of_mem_of_not_mem hc h]
  rw [takeTill, List.takeWhile_append_of_pos hpass, List.dropWhile_append_of_pos hpass]
  simp

/-! ### Lists with separators -/

section

variable {separator : Char} {item : Parser α}

private theorem further_nil : further (char separator) item [] = .ok ([], []) := by
  rw [further]
  rfl

private theorem further_cons_of_ne {c : Char} (h : c ≠ separator) (cs : List Char) :
    further (char separator) item (c :: cs) = .ok ([], c :: cs) := by
  rw [further, char, if_neg h]

private theorem further_cons_self {cs rest : List Char} {a : α} (h : item cs = .ok (a, rest))
    (hlen : rest.length ≤ cs.length) :
    further (char separator) item (separator :: cs) = separated (char separator) item cs := by
  have hlt : rest.length < (separator :: cs).length := Nat.lt_succ_of_le hlen
  rw [further, char, if_pos rfl, separated]
  dsimp only
  rw [h]
  exact if_pos hlt

/-- If the items are what stands before the next separator, or before the next character that
satisfies `stop`, then the list is the pieces of what stands before the latter. -/
theorem separated_eq_pieces {stop : Char → Bool} {f : List Char → α}
    (hstop : stop separator = false) (hitem : ∀ cs, item cs =
      .ok (f (cs.takeWhile fun c => c != separator && !stop c),
        cs.dropWhile fun c => c != separator && !stop c)) (cs : List Char) :
    separated (char separator) item cs =
      .ok ((pieces separator (cs.takeWhile fun c => !stop c)).map f,
        cs.dropWhile fun c => !stop c) := by
  -- the list goes on after a separator with a shorter text
  induction hlen : cs.length using Nat.strongRecOn generalizing cs with
  | ind n ih =>
    have hread := hitem cs
    have htaken : ∀ c ∈ cs.takeWhile fun c => c != separator && !stop c,
        c ≠ separator ∧ stop c = false := by
      intro c hc
      simpa using List.mem_takeWhile_imp hc
    have hstops := List.head?_dropWhile_not (fun c => c != separator && !stop c) cs
    have hcs := List.takeWhile_append_dropWhile (p := fun c => c != separator && !stop c) (l := cs)
    generalize (cs.takeWhile fun c => c != separator && !stop c) = taken at hread htaken hcs
    generalize (cs.dropWhile fun c => c != separator && !stop c) = left at hread hstops hcs
    have hnot : separator ∉ taken := fun hmem => (htaken separator hmem).1 rfl
    have hpass : ∀ c ∈ taken, (!stop c) = true := fun c hc => by simp [(htaken c hc).2]
    rw [separated, hread]
    subst hcs
    dsimp only
    rw [List.takeWhile_append_of_pos hpass, List.dropWhile_append_of_pos hpass]
    cases left with
    | nil =>
      rw [further_nil, List.takeWhile_nil, List.append_nil, pieces_of_not_mem hnot]
      rfl
    | cons c left =>
      by_cases hc : c = separator
      · have hrest := ih left.length (by rw [← hlen]; simp; omega) left rfl
        rw [hc, further_cons_self (hitem left) (List.length_dropWhile_le _ _), hrest,
          List.takeWhile_cons_of_pos (by simp [hstop]),
          List.dropWhile_cons_of_pos (by simp [hstop]), pieces_append_sep hnot]
        rfl
      · have hc' : stop c = true := by simpa [hc] using hstops
        rw [further_cons_of_ne hc, List.takeWhile_cons_of_neg (by simp [hc']),
          List.dropWhile_cons_of_neg (by simp [hc']), List.append_nil, pieces_of_not_mem hnot]
        rfl

end

end Parser

end FlowConsole.Text
