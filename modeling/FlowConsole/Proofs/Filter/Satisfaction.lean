import FlowConsole.Filter.Basic
import FlowConsole.Proofs.LogQL.Wildcards
import FlowConsole.Text.Integer

/-!
# Flows that satisfy filters

What a match says of a flow: its field, read as text, is selected by the comparison that the stores
are given for the match. What the comparison selects is put in terms of atoms here
(`selects_ofAtoms_iff`), so that no regular expression is left to be read. A record without the
field is one where the field is empty.
-/

namespace FlowConsole

/-- The fields of a flow record as texts. A field that the record does not have is empty. -/
abbrev Flow := String → String

namespace LogQL

/-- The texts are whole numbers, the second at least as large as the first. -/
def IsAtLeast (bound text : String) : Prop :=
  Atom.isDigits bound.toList = true ∧ Atom.isDigits text.toList = true ∧
    ∃ low n, Text.numeral? 10 bound.toList = some low ∧ Text.numeral? 10 text.toList = some n ∧
      low ≤ n

namespace LabelFilter

/-- The comparison selects a text. Values are compared as texts: what a store makes of addresses,
which may stand for ranges of them, is not said here. -/
def Selects (engine : Regex.Engine) (f : LabelFilter) (text : String) : Prop :=
  match f.operator with
  | .equal => text = f.value
  | .notEqual => text ≠ f.value
  | .matching => engine.Matches f.value text
  | .notMatching => ¬engine.Matches f.value text
  | .atLeast => IsAtLeast f.value text

variable {engine : Regex.Engine} {key text : String}

/-- A comparison with atoms selects what some of them selects, or all else if it is negated. -/
theorem selects_anyOf_iff {atoms : List String} (h : atoms ≠ []) (negated : Bool) :
    (anyOf key atoms negated).Selects engine text ↔
      if negated then ¬Atom.SelectsAny engine.folding false atoms text
      else Atom.SelectsAny engine.folding false atoms text := by
  cases negated with
  | false => exact matches_alternatives_iff h engine text
  | true => exact not_congr (matches_alternatives_iff h engine text)

/-- The comparison of a match with atoms selects what some of them selects, or all else if it is
negated. -/
theorem selects_ofAtoms_iff {atoms : List String} (h : atoms ≠ []) (negated : Bool) :
    (ofAtoms key atoms negated).Selects engine text ↔
      if negated then ¬Atom.SelectsAny engine.folding false atoms text
      else Atom.SelectsAny engine.folding false atoms text := by
  rw [ofAtoms.eq_def]
  split
  · next atom =>
    split
    · next hexact =>
      -- an equality selects what the expression of the atom would select
      have hmem : Atom.SelectsAny engine.folding false [atom] text ↔
          text = (Atom.unquoted? atom).getD "" := by
        obtain ⟨inner, hinner, -⟩ := Atom.unquoted?_of_isExact hexact
        rw [Atom.selectsAny_iff_mem (by simpa using hexact), List.map_singleton,
          List.mem_singleton, Atom.unquoted, hinner]
        rfl
      rw [hmem]
      cases negated with
      | false => exact Iff.rfl
      | true => exact Iff.rfl
    · exact selects_anyOf_iff h negated
  · exact selects_anyOf_iff h negated

/-- The comparison of a match selects what the expression made for its atoms does. -/
theorem selects_ofAtoms_iff_anyOf {atoms : List String} (h : atoms ≠ []) (negated : Bool) :
    (ofAtoms key atoms negated).Selects engine text ↔
      (anyOf key atoms negated).Selects engine text :=
  (selects_ofAtoms_iff h negated).trans (selects_anyOf_iff h negated).symm

/-- The expression made for one atom selects what the atom does. -/
theorem selects_anyOf_singleton {atom : String} :
    (anyOf key [atom] false).Selects engine text ↔
      Atom.Selects engine.folding false atom text := by
  rw [selects_anyOf_iff (List.cons_ne_nil _ _)]
  simp [Atom.SelectsAny]

end LabelFilter

end LogQL

namespace Filter

/-- A match has an atom. -/
theorem Match.atoms_ne_nil (m : Match) : m.atoms ≠ [] := fun hnil =>
  Text.pieces_ne_nil ',' m.values.toList (List.map_eq_nil_iff.mp hnil)

/-- The comparison of a match that asks for no numbers from a bound upwards. -/
def Match.comparison (m : Match) : LogQL.LabelFilter :=
  if m.regex then .regex m.key m.values m.negated else .ofAtoms m.key m.atoms m.negated

/-- The comparison of a match is on the field of the match. -/
@[simp] theorem Match.key_comparison (m : Match) : m.comparison.key = m.key := by
  rw [Match.comparison]
  split
  · rfl
  · exact LogQL.LabelFilter.key_ofAtoms _ _ _

/-- The match says a text of its field. -/
def Match.Accepts (engine : Regex.Engine) (m : Match) (text : String) : Prop :=
  if m.regex = false ∧ m.atLeast = true then
    if m.negated then ∀ atom ∈ m.atoms, ¬LogQL.IsAtLeast (LogQL.Atom.unquoted atom) text
    else ∃ atom ∈ m.atoms, LogQL.IsAtLeast (LogQL.Atom.unquoted atom) text
  else m.comparison.Selects engine text

/-- The flow satisfies all matches of the group. -/
def Group.Accepts (engine : Regex.Engine) (g : Group) (flow : Flow) : Prop :=
  ∀ m ∈ g, m.Accepts engine (flow m.key)

variable {engine : Regex.Engine}

/-- A match without a bound accepts what its comparison selects. -/
theorem Match.accepts_of_not_atLeast {m : Match} (h : m.atLeast = false) {text : String} :
    m.Accepts engine text ↔ m.comparison.Selects engine text := by
  rw [Match.Accepts, if_neg]
  rintro ⟨-, ha⟩
  rw [h] at ha
  cases ha

/-- A positive match with exact atoms accepts the texts of the atoms. -/
theorem Match.accepts_iff_mem {m : Match} (hregex : m.regex = false) (hatLeast : m.atLeast = false)
    (hnegated : m.negated = false) (h : ∀ atom ∈ m.atoms, LogQL.Atom.isExact atom = true)
    {texts : List String} (htexts : m.atoms.map LogQL.Atom.unquoted = texts) {text : String} :
    m.Accepts engine text ↔ text ∈ texts := by
  rw [m.accepts_of_not_atLeast hatLeast, Match.comparison, hregex, hnegated,
    if_neg Bool.false_ne_true, LogQL.LabelFilter.selects_ofAtoms_iff m.atoms_ne_nil,
    if_neg Bool.false_ne_true, LogQL.Atom.selectsAny_iff_mem h, htexts]

/-- A flow satisfies a longer group if it satisfies both parts. -/
@[simp] theorem Group.accepts_append {g g' : Group} {flow : Flow} :
    Group.Accepts engine (g ++ g') flow ↔ g.Accepts engine flow ∧ g'.Accepts engine flow :=
  List.forall_mem_append

/-- A flow satisfies a group with a first match if it satisfies that and the rest. -/
@[simp] theorem Group.accepts_cons {m : Match} {g : Group} {flow : Flow} :
    Group.Accepts engine (m :: g) flow ↔ m.Accepts engine (flow m.key) ∧ g.Accepts engine flow :=
  List.forall_mem_cons

/-- Every flow satisfies the group without matches. -/
@[simp] theorem Group.accepts_nil {flow : Flow} : Group.Accepts engine [] flow := by
  intro m hm
  cases hm

end Filter

end FlowConsole
