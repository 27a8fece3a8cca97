import FlowConsole.LogQL.Label
import FlowConsole.Proofs.Regex.Reading
import Mathlib.Data.List.Forall2

/-!
# What atoms select

A label is compared with several atoms, or with atoms that hold stars, by a regular expression. What
the stores make of that expression is what the atoms say (`matches_alternatives_iff`): an atom
between quotes selects the texts that it fits as a whole, any other atom the texts that it fits
somewhere, in any case. There is one thing that the atoms do not say: after an atom without quotes,
case is ignored for those with quotes as well.
-/

namespace FlowConsole.LogQL

namespace Atom

/-! ### Expressions -/

/-- The expression of a character of an atom. -/
def charRegex (ignoreCase : Bool) (c : Char) : Regex :=
  if c = '*' then .anything ignoreCase else .one ignoreCase (.one c)

/-- The parts of the expression of an atom, where case is ignored or not. -/
def parts (ignoreCase : Bool) (atom : String) : List Regex :=
  match unquoted? atom with
  | some inner =>
    (if inner.toList.head? = some '*' then [] else [.start]) ++
      inner.toList.map (charRegex ignoreCase) ++
        if inner.toList.getLast? = some '*' then [] else [.stop]
  | none => [.anything true] ++ atom.toList.map (charRegex true) ++ [.anything true]

/-- Case is ignored after the atom. -/
def ignoresCaseAfter (ignoreCase : Bool) (atom : String) : Bool :=
  ignoreCase || (unquoted? atom).isNone

/-- The expressions of atoms in order. -/
def branches (ignoreCase : Bool) : List String → List Regex
  | [] => []
  | atom :: atoms =>
    .sequence (parts ignoreCase atom) :: branches (ignoresCaseAfter ignoreCase atom) atoms

private theorem step_escaped {s : Regex.Reader} {c : Char} (hs : s.mode = .escaped)
    (hc : isMeta c = true) : s.step c = some (s.pushSet (.one c)) := by
  have hsign : ¬(c.isAlphanum || decide (128 ≤ c.toNat)) = true := by
    simp only [isMeta, Bool.or_eq_true, beq_iff_eq, or_assoc] at hc
    rcases hc with rfl | rfl | rfl | rfl | rfl | rfl | rfl | rfl | rfl | rfl | rfl | rfl | rfl <;>
      decide
  rw [Regex.Reader.step, hs]
  exact if_neg hsign

private theorem plainStep_of_not_isMeta (s : Regex.Reader) {c : Char} (hc : ¬isMeta c = true)
    (hstar : c ≠ '*') : s.plainStep c = some (s.pushSet (.one c)) := by
  rw [Regex.Reader.plainStep.eq_def]
  split <;> first | rfl | exact absurd rfl hstar | exact absurd rfl hc

/-- The pattern of a character adds its expression. -/
theorem adds_charPattern (ignoreCase : Bool) (c : Char) :
    Regex.Reader.Adds ignoreCase (charPattern c) [charRegex ignoreCase c] := by
  rw [charPattern, charRegex]
  split_ifs with hstar hmeta
  · exact Regex.Reader.adds_anything ignoreCase
  · intro s hmode hcase
    have hescape : s.step '\\' = some { s with mode := .escaped } := by
      rw [Regex.Reader.step, hmode]
      rfl
    refine ⟨true, ?_⟩
    rw [Regex.Reader.run_cons, hescape, Option.bind_some, Regex.Reader.run_cons,
      step_escaped rfl hmeta, ← hcase, Option.bind_some, Regex.Reader.run_nil,
      Regex.Reader.adding, hmode]
    rfl
  · refine Regex.Reader.adds_of_step fun s hmode hcase => ?_
    rw [Regex.Reader.step, hmode, ← hcase]
    exact plainStep_of_not_isMeta s hmeta hstar

/-- The pattern of characters adds their expressions. -/
theorem adds_chars (ignoreCase : Bool) (cs : List Char) :
    Regex.Reader.Adds ignoreCase (cs.flatMap charPattern) (cs.map (charRegex ignoreCase)) := by
  induction cs with
  | nil => exact Regex.Reader.adds_nil ignoreCase
  | cons c cs ih => exact (adds_charPattern ignoreCase c).append ih

/-- The reader after the alternative of an atom. -/
def afterAlternative (s : Regex.Reader) (atom : String) (repeatable : Bool) : Regex.Reader :=
  { s with
    group := { s.group with
      ignoreCase := ignoresCaseAfter s.group.ignoreCase atom
      parts := (parts s.group.ignoreCase atom).reverse }
    repeatable }

private theorem branch_afterAlternative (s : Regex.Reader) (atom : String) (repeatable : Bool) :
    (afterAlternative s atom repeatable).group.branch =
      .sequence (parts s.group.ignoreCase atom) := by
  rw [Regex.OpenGroup.branch, afterAlternative, List.reverse_reverse]

/-- An alternative is read as the parts of its atom. -/
theorem run_alternative {s : Regex.Reader} (hmode : s.mode = .plain) (hparts : s.group.parts = [])
    (atom : String) :
    ∃ repeatable, s.run (LabelFilter.alternative atom).toList =
      some (afterAlternative s atom repeatable) := by
  simp only [LabelFilter.alternative, afterAlternative, parts, ignoresCaseAfter]
  cases unquoted? atom with
  | some inner =>
    have hstart : Regex.Reader.Adds s.group.ignoreCase
        (if inner.toList.head? = some '*' then "" else "^").toList
        (if inner.toList.head? = some '*' then [] else [.start]) := by
      split
      · exact Regex.Reader.adds_nil _
      · exact Regex.Reader.adds_start _
    have hstop : Regex.Reader.Adds s.group.ignoreCase
        (if inner.toList.getLast? = some '*' then "" else "$").toList
        (if inner.toList.getLast? = some '*' then [] else [.stop]) := by
      split
      · exact Regex.Reader.adds_nil _
      · exact Regex.Reader.adds_stop _
    obtain ⟨repeatable, h⟩ :=
      ((hstart.append (adds_chars _ inner.toList)).append hstop) s hmode rfl
    refine ⟨repeatable, ?_⟩
    simp only [String.toList_append, pattern, String.toList_ofList, h, Regex.Reader.adding, hparts,
      List.append_nil, Option.isNone_some, Bool.or_false]
  | none =>
    have hbody : Regex.Reader.Adds true
        (['.', '*'] ++ atom.toList.flatMap charPattern ++ ['.', '*'])
        ([.anything true] ++ atom.toList.map (charRegex true) ++ [.anything true]) :=
      ((Regex.Reader.adds_anything true).append (adds_chars true atom.toList)).append
        (Regex.Reader.adds_anything true)
    have htext : ("(?i).*" ++ pattern atom ++ ".*").toList =
        ['(', '?', 'i', ')'] ++ (['.', '*'] ++ atom.toList.flatMap charPattern ++ ['.', '*']) := by
      simp [pattern]
    obtain ⟨repeatable, h⟩ := hbody
      { s with group := { s.group with ignoreCase := true }, repeatable := false } hmode rfl
    refine ⟨repeatable, ?_⟩
    rw [htext, Regex.Reader.run_of_append (Regex.Reader.run_ignoreCase hmode), h]
    simp only [Regex.Reader.adding, hparts, List.append_nil, Option.isNone_none, Bool.or_true]

/-- Joined alternatives are read as one of the expressions of their atoms. -/
theorem finish_run_alternatives {atoms : List String} (h : atoms ≠ []) {s : Regex.Reader}
    (hmode : s.mode = .plain) (haround : s.around = []) (hparts : s.group.parts = []) :
    (s.run (Text.join "|" (atoms.map LabelFilter.alternative)).toList).bind Regex.Reader.finish =
      some (.oneOf (s.group.branches ++ branches s.group.ignoreCase atoms)) := by
  induction atoms generalizing s with
  | nil => exact absurd rfl h
  | cons atom atoms ih =>
    obtain ⟨repeatable, hrun⟩ := run_alternative hmode hparts atom
    cases atoms with
    | nil =>
      rw [List.map_singleton, Text.join, hrun, Option.bind_some, Regex.Reader.finish,
        if_pos ⟨hmode, haround⟩, Regex.OpenGroup.close, branch_afterAlternative]
      rfl
    | cons next atoms =>
      have hbar : (LabelFilter.alternative atom ++ "|" ++
          Text.join "|" ((next :: atoms).map LabelFilter.alternative)).toList =
          (LabelFilter.alternative atom).toList ++
            '|' :: (Text.join "|" ((next :: atoms).map LabelFilter.alternative)).toList := by
        simp
      have hplain : (afterAlternative s atom repeatable).mode = .plain := hmode
      have hnext : (afterAlternative s atom repeatable).nextBranch.mode = .plain := hmode
      rw [List.map_cons, List.map_cons, Text.join, ← List.map_cons, hbar,
        Regex.Reader.run_of_append hrun, Regex.Reader.run_cons, Regex.Reader.step_bar hplain,
        Option.bind_some, ih (List.cons_ne_nil next atoms) hnext haround rfl]
      simp only [Regex.Reader.nextBranch, branch_afterAlternative, List.append_assoc,
        List.singleton_append]
      rfl

/-! ### Selected texts -/

variable {k : CaseFolding}

/-- The characters fit the text as a whole: a star fits any text on one line, and any other
character one that is read for it. -/
def Fits (k : CaseFolding) (ignoreCase : Bool) : List Char → List Char → Prop
  | [], text => text = []
  | c :: cs, text =>
    if c = '*' then ∃ u v, text = u ++ v ∧ '\n' ∉ u ∧ Fits k ignoreCase cs v
    else ∃ d v, text = d :: v ∧ k.Reads ignoreCase c d ∧ Fits k ignoreCase cs v

/-- The atom selects the text: between quotes it fits the text as a whole, otherwise somewhere, in
any case. -/
def Selects (k : CaseFolding) (ignoreCase : Bool) (atom text : String) : Prop :=
  match unquoted? atom with
  | some inner => Fits k ignoreCase inner.toList text.toList
  | none => Fits k true ('*' :: atom.toList ++ ['*']) text.toList

/-- Some of the atoms selects the text. -/
def SelectsAny (k : CaseFolding) (ignoreCase : Bool) : List String → String → Prop
  | [], _ => False
  | atom :: atoms, text =>
    Selects k ignoreCase atom text ∨ SelectsAny k (ignoresCaseAfter ignoreCase atom) atoms text

/-- The expressions of characters match what the characters fit. -/
theorem matches_chars {ignoreCase : Bool} {cs before text after : List Char} :
    (Regex.sequence (cs.map (charRegex ignoreCase))).Matches k before text after ↔
      Fits k ignoreCase cs text := by
  induction cs generalizing before text with
  | nil => rfl
  | cons c cs ih =>
    rw [List.map_cons, Regex.sequence, Regex.matches_seq, Fits, charRegex]
    split
    · simp only [Regex.matches_anything, ih]
    · simp only [Regex.matches_one, ih, CharSet.Has]
      constructor
      · rintro ⟨-, v, rfl, ⟨d, rfl, hd⟩, hv⟩
        exact ⟨d, v, rfl, hd, hv⟩
      · rintro ⟨d, v, rfl, hd, hv⟩
        exact ⟨[d], v, rfl, ⟨d, rfl, hd⟩, hv⟩

/-- The expression of an atom matches the texts that the atom selects. -/
theorem matchesAll_parts {ignoreCase : Bool} {atom text : String} :
    (Regex.sequence (parts ignoreCase atom)).MatchesAll k text.toList ↔
      Selects k ignoreCase atom text := by
  rw [parts, Selects, Regex.MatchesAll]
  cases unquoted? atom with
  | some inner =>
    simp only [Regex.matches_sequence_append, matches_chars]
    constructor
    · rintro ⟨-, v, htext, ⟨u, w, rfl, hu, hw⟩, hv⟩
      have hu : u = [] := by
        split at hu
        · exact hu
        · obtain ⟨u, v, rfl, ⟨rfl, -⟩, rfl⟩ := hu
          rfl
      have hv : v = [] := by
        split at hv
        · exact hv
        · obtain ⟨u, v, rfl, ⟨rfl, -⟩, rfl⟩ := hv
          rfl
      rw [htext, hu, hv, List.nil_append, List.append_nil]
      exact hw
    · intro h
      refine ⟨text.toList, [], (List.append_nil _).symm, ⟨[], text.toList, rfl, ?_, h⟩, ?_⟩
      · split
        · rfl
        · exact ⟨[], [], rfl, ⟨rfl, rfl⟩, rfl⟩
      · split
        · rfl
        · exact ⟨[], [], rfl, ⟨rfl, rfl⟩, rfl⟩
  | none =>
    have hparts : [.anything true] ++ atom.toList.map (charRegex true) ++ [.anything true] =
        ('*' :: atom.toList ++ ['*']).map (charRegex true) := by
      simp [charRegex]
    simp only [hparts, matches_chars]

private theorem exists_mem_branches {ignoreCase : Bool} {atoms : List String} {text : String} :
    (∃ r ∈ branches ignoreCase atoms, r.MatchesAll k text.toList) ↔
      SelectsAny k ignoreCase atoms text := by
  induction atoms generalizing ignoreCase with
  | nil => simp [branches, SelectsAny]
  | cons atom atoms ih =>
    rw [branches, List.exists_mem_cons_iff, matchesAll_parts, ih, SelectsAny]

/-! ### Fitting texts -/

/-- Without stars and with regard to case, characters fit themselves only. -/
theorem fits_iff_eq {cs text : List Char} (h : '*' ∉ cs) : Fits k false cs text ↔ text = cs := by
  induction cs generalizing text with
  | nil => rfl
  | cons c cs ih =>
    rw [List.mem_cons, not_or] at h
    rw [Fits, if_neg (Ne.symm h.1)]
    constructor
    · rintro ⟨d, v, rfl, rfl, hv⟩
      rw [(ih h.2).mp hv]
    · rintro rfl
      exact ⟨c, cs, rfl, rfl, (ih h.2).mpr rfl⟩

/-- Characters fit what is left of them without the stars. -/
theorem fits_withoutStars (ignoreCase : Bool) (cs : List Char) :
    Fits k ignoreCase cs (cs.filter (· ≠ '*')) := by
  induction cs with
  | nil => rfl
  | cons c cs ih =>
    rw [Fits]
    split
    · next hc => exact ⟨[], cs.filter (· ≠ '*'), by simp [hc], List.not_mem_nil, ih⟩
    · next hc => exact ⟨c, cs.filter (· ≠ '*'), by simp [hc], k.reads_self ignoreCase c, ih⟩

/-- Characters in order fit texts in order. -/
theorem fits_append_iff {ignoreCase : Bool} {cs ds text : List Char} :
    Fits k ignoreCase (cs ++ ds) text ↔
      ∃ u v, text = u ++ v ∧ Fits k ignoreCase cs u ∧ Fits k ignoreCase ds v := by
  have hmatches := @matches_chars k ignoreCase (cs ++ ds) [] text []
  rw [List.map_append, Regex.matches_sequence_append] at hmatches
  simp only [matches_chars] at hmatches
  exact hmatches.symm

/-- Characters after others fit what follows the text that the others fit. -/
theorem Fits.append {ignoreCase : Bool} {cs ds u v : List Char} (h : Fits k ignoreCase cs u)
    (h' : Fits k ignoreCase ds v) : Fits k ignoreCase (cs ++ ds) (u ++ v) :=
  fits_append_iff.mpr ⟨u, v, rfl, h, h'⟩

/-- Without stars, characters fit the texts that can be read for them character by character. -/
theorem fits_iff_forall₂ {ignoreCase : Bool} {cs text : List Char} (h : '*' ∉ cs) :
    Fits k ignoreCase cs text ↔ List.Forall₂ (k.Reads ignoreCase) cs text := by
  induction cs generalizing text with
  | nil =>
    rw [List.forall₂_nil_left_iff]
    rfl
  | cons c cs ih =>
    rw [List.mem_cons, not_or] at h
    rw [Fits, if_neg (Ne.symm h.1), List.forall₂_cons_left_iff]
    simp only [ih h.2]
    constructor
    · rintro ⟨d, v, rfl, hd, hv⟩
      exact ⟨d, v, hd, hv, rfl⟩
    · rintro ⟨d, v, hd, hv, rfl⟩
      exact ⟨d, v, rfl, hd, hv⟩

/-- A star fits any text on one line. -/
theorem fits_star {ignoreCase : Bool} {text : List Char} (h : '\n' ∉ text) :
    Fits k ignoreCase ['*'] text :=
  ⟨text, [], (List.append_nil text).symm, h, rfl⟩

/-- A character without case fits somewhere in a text of one character if that is the same. -/
theorem fits_within_one {c d : Char} (hc : c.toNat < 128 ∧ c.isAlpha = false) (hstar : c ≠ '*') :
    Fits k true ['*', c, '*'] [d] ↔ d = c := by
  simp only [Fits, if_pos, if_neg hstar, k.reads_iff_of_caseless true hc.1 hc.2]
  constructor
  · rintro ⟨u, v, huv, -, d', v', rfl, rfl, -⟩
    rw [List.singleton_eq_append_iff] at huv
    rcases huv with ⟨-, hv⟩ | ⟨-, hv⟩
    · cases hv
      rfl
    · cases hv
  · rintro rfl
    exact ⟨[], [d], rfl, List.not_mem_nil, d, [], rfl, rfl, [], [], rfl, List.not_mem_nil, rfl⟩

/-- An exact atom is a quoted text without stars. -/
theorem unquoted?_of_isExact {atom : String} (h : isExact atom = true) :
    ∃ inner, unquoted? atom = some inner ∧ '*' ∉ inner.toList := by
  rw [isExact] at h
  rw [unquoted?]
  cases hinner : inner? atom.toList with
  | none =>
    rw [hinner] at h
    cases h
  | some cs =>
    rw [hinner, Option.any_some, Bool.not_eq_true', ← Bool.not_eq_true, List.contains_iff_mem] at h
    exact ⟨_, rfl, by rwa [String.toList_ofList]⟩

/-- Exact atoms select their texts. -/
theorem selectsAny_iff_mem {atoms : List String} (h : ∀ atom ∈ atoms, isExact atom = true)
    {text : String} : SelectsAny k false atoms text ↔ text ∈ atoms.map unquoted := by
  induction atoms with
  | nil => simp [SelectsAny]
  | cons atom atoms ih =>
    obtain ⟨inner, hinner, hstar⟩ := unquoted?_of_isExact (h atom List.mem_cons_self)
    have hrest := ih fun a ha => h a (List.mem_cons_of_mem atom ha)
    have hcase : ignoresCaseAfter false atom = false := by
      rw [ignoresCaseAfter, hinner]
      rfl
    have hfirst : Selects k false atom text ↔ text = unquoted atom := by
      rw [Selects, unquoted, hinner, Option.getD_some, ← String.toList_inj]
      exact fits_iff_eq hstar
    rw [SelectsAny, hcase, hfirst, hrest, List.map_cons, List.mem_cons]

end Atom

/-- Joined alternatives are an expression, which matches the texts that some of the atoms
selects. -/
theorem exists_read_alternatives {atoms : List String} (h : atoms ≠ []) :
    ∃ r, Regex.read (Text.join "|" (atoms.map LabelFilter.alternative)).toList = some r ∧
      ∀ (k : CaseFolding) (text : String),
        r.MatchesAll k text.toList ↔ Atom.SelectsAny k false atoms text := by
  refine ⟨_, Atom.finish_run_alternatives h rfl rfl rfl, fun k text => ?_⟩
  have hne : ([] : List Regex) ++ Atom.branches false atoms ≠ [] := by
    cases atoms with
    | nil => exact absurd rfl h
    | cons atom atoms => exact List.cons_ne_nil _ _
  rw [Regex.MatchesAll, Regex.matches_oneOf hne]
  exact Atom.exists_mem_branches

/-- The alternatives of atoms match the texts that some of the atoms selects. -/
theorem matches_alternatives_iff {atoms : List String} (h : atoms ≠ []) (engine : Regex.Engine)
    (text : String) :
    engine.Matches (Text.join "|" (atoms.map LabelFilter.alternative)) text ↔
      Atom.SelectsAny engine.folding false atoms text := by
  obtain ⟨r, hr, hmatches⟩ := exists_read_alternatives h
  rw [engine.matches_iff hr, hmatches]

end FlowConsole.LogQL
