import FlowConsole.Proofs.LogQL.AtLeast
import FlowConsole.Proofs.LogQL.Statable
import FlowConsole.Proofs.Record.Names

/-!
# Searches for numbers

A line filter for numbers searches the line of a record for the end of a name, a quote, a colon, and
the text of a number up to a comma or the closing brace. Since names are the only texts that a quote
and a colon follow, it finds the fields that the key names and no others, and since the end of the
number is asked for, it compares the whole number (`LineFilter.keeps_numeric_iff`). An empty key has
to be looked for from its opening quote: a quote that is escaped in a text can stand before a colon.
-/

open FlowConsole.Text (Consists)
open FlowConsole.Regex (Denotes Searcher)

namespace FlowConsole.LogQL

namespace Atom

/-- The value of an atom in a line filter for numbers. -/
def lineNumber (atLeast : Bool) (atom : String) : LineValue :=
  if atLeast then ⟨.atLeast, unquoted atom⟩ else ⟨.number, pattern (unquoted atom)⟩

/-- The digits are the number of the atom, or those that its lower bound takes. -/
def TakesNumber (atLeast : Bool) (atom : String) (ds : List Char) : Prop :=
  if atLeast then ∃ a ∈ AtLeast.alternatives (AtLeast.significant (unquoted atom).toList), a.2 ds
  else ds = (unquoted atom).toList

variable {key atom : String} {atLeast : Bool} {v : LineValue}

/-- The value of an admitted atom is a number, or made of digits if it is a lower bound. -/
theorem of_ofAtom_numeric (h : LineValue.ofAtom key .numeric atLeast atom = .ok v) :
    v = lineNumber atLeast atom ∧ isNumber (unquoted atom) = true ∧
      (atLeast = true → isDigits (unquoted atom).toList = true) := by
  cases atLeast with
  | true =>
    obtain ⟨rfl, hdigits⟩ := LineFilter.bound_of_ofAtom h
    exact ⟨rfl, isNumber_of_isDigits hdigits, fun _ => hdigits⟩
  | false =>
    unfold LineValue.ofAtom at h
    dsimp only at h
    rw [if_neg Bool.false_ne_true] at h
    split_ifs at h with hnumber
    cases h
    exact ⟨rfl, hnumber, fun hfalse => absurd hfalse Bool.false_ne_true⟩

private theorem digits_of_isDigits {cs : List Char} (h : isDigits cs = true) :
    AtLeast.Digits cs := by
  rw [isDigits, Bool.and_eq_true] at h
  exact List.all_eq_true.mp h.2

private theorem digits_significant {cs : List Char} (h : isDigits cs = true) :
    AtLeast.Digits (AtLeast.significant cs) := by
  obtain ⟨d, ds, hds, hdigits, -⟩ := AtLeast.significant_eq (digits_of_isDigits h)
  rwa [hds]

private theorem isNumeralChar_of_isDigit {c : Char} (h : c.isDigit = true) :
    isNumeralChar c = true := by
  rw [isNumeralChar, h, Bool.true_or]

/-- The value of an admitted atom denotes the numbers that it takes. -/
theorem denotes_lineNumber (h : LineValue.ofAtom key .numeric atLeast atom = .ok v) :
    Denotes v.pattern.toList (TakesNumber atLeast atom) := by
  obtain ⟨rfl, hnumber, hdigits⟩ := of_ofAtom_numeric h
  cases atLeast with
  | true =>
    have hpattern : (lineNumber true atom).pattern.toList =
        AtLeast.patternOf (unquoted atom).toList := by
      simp [lineNumber, LineValue.pattern]
    rw [hpattern]
    exact AtLeast.denotes_patternOf (digits_significant (hdigits rfl))
  | false =>
    have hstar : '*' ∉ (unquoted atom).toList := fun hmem =>
      absurd (number_of_isNumber hnumber _ hmem) (by simp [isNumberChar])
    have hpattern : (lineNumber false atom).pattern.toList =
        (unquoted atom).toList.flatMap charPattern := by
      simp [lineNumber, LineValue.pattern, pattern]
    rw [hpattern]
    exact denotes_chars hstar

/-- What an admitted atom takes is made of the characters of numbers. -/
theorem TakesNumber.chars (h : LineValue.ofAtom key .numeric atLeast atom = .ok v) {ds : List Char}
    (hds : TakesNumber atLeast atom ds) : (∀ c ∈ ds, isNumeralChar c = true) ∧ ds ≠ [] := by
  obtain ⟨-, hnumber, hdigits⟩ := of_ofAtom_numeric h
  cases atLeast with
  | true =>
    obtain ⟨a, ha, htakes⟩ := hds
    obtain ⟨hall, hne⟩ :=
      AtLeast.digits_of_alternative (digits_significant (hdigits rfl)) ha htakes
    exact ⟨fun c hc => isNumeralChar_of_isDigit (hall c hc), hne⟩
  | false =>
    obtain rfl : ds = (unquoted atom).toList := hds
    refine ⟨consists_of_isNumber (fun _ => isNumeralChar_of_isDigit) rfl rfl hnumber, ?_⟩
    intro hnil
    rw [String.toList_eq_nil_iff] at hnil
    rw [hnil] at hnumber
    cases hnumber

end Atom

namespace LineFilter

variable {key : String} {atoms : List String} {strict negated atLeast : Bool} {f : LineFilter}
  {store : Searcher} {w : Escaping} {r : FlowRecord}

private theorem denotes_boundary :
    Denotes "[,\x7d]".toList fun text => ∃ c, text = [c] ∧ c ∈ [',', '\x7d'] := by
  have hchars : ∀ c ∈ [',', '\x7d'], c ≠ ']' ∧ c ≠ '^' ∧ c ≠ '-' := by simp
  exact Regex.denotes_brackets (List.cons_ne_nil _ _) hchars

/-- The text is the pattern of the name, a number that the atom takes, and a comma or a closing
brace. -/
def HoldsNumber (f : LineFilter) (atLeast : Bool) (atom : String) (part : List Char) : Prop :=
  ∃ ds c, part = f.keyPattern.toList ++ (ds ++ [c]) ∧ Atom.TakesNumber atLeast atom ds ∧
    c ∈ [',', '\x7d']

/-- The alternatives of a line filter for numbers, each with what it denotes. -/
def numberAlternatives (f : LineFilter) (atLeast : Bool) (atoms : List String) :
    List (List Char × (List Char → Prop)) :=
  atoms.map fun atom =>
    ((f.alternative (Atom.lineNumber atLeast atom)).toList, f.HoldsNumber atLeast atom)

private theorem denotes_alternative {atom : String} (hkey : Consists Text.isWord f.key)
    (h : LineValue.ofAtom key .numeric atLeast atom = .ok (Atom.lineNumber atLeast atom)) :
    Denotes (f.alternative (Atom.lineNumber atLeast atom)).toList (f.HoldsNumber atLeast atom) := by
  have hboundary : (Atom.lineNumber atLeast atom).boundary = "[,\x7d]" := by
    cases atLeast <;> rfl
  rw [alternative, fragment, hboundary, String.toList_append, String.toList_append]
  refine (((Atom.denotes_self (charPattern_keyPattern hkey)).append
    (Atom.denotes_lineNumber h)).append denotes_boundary).congr fun part => ?_
  constructor
  · rintro ⟨-, -, rfl, ⟨-, ds, rfl, rfl, hds⟩, c, rfl, hc⟩
    exact ⟨ds, c, List.append_assoc _ _ _, hds, hc⟩
  · rintro ⟨ds, c, rfl, hds, hc⟩
    exact ⟨f.keyPattern.toList ++ ds, [c], (List.append_assoc _ _ _).symm,
      ⟨_, ds, rfl, rfl, hds⟩, c, rfl, hc⟩

private theorem toList_body (hvalues : f.values = atoms.map (Atom.lineNumber atLeast))
    (hne : atoms ≠ []) :
    f.body.toList =
      Text.joinPieces '|' ((f.numberAlternatives atLeast atoms).map Prod.fst) := by
  rw [body, hvalues, if_neg (by simpa using hne), Text.toList_join rfl, numberAlternatives,
    List.map_map, List.map_map, List.map_map]
  rfl

/-- The pattern of a line filter for numbers is found on the line of a record exactly if a field
that the key names holds a number that one of the atoms takes. -/
theorem finds_numbers_iff (hkey : Consists Text.isWord key) (hstrict : strict = true ∨ key ≠ "")
    (hne : atoms ≠ []) (h : ofAtoms key atoms .numeric strict negated atLeast = .ok f) :
    store.Finds f.body (r.line w) ↔
      ∃ e ∈ r, e.IsNamed strict key ∧ ∃ n, e.value = .number n ∧
        ∃ atom ∈ atoms, Atom.TakesNumber atLeast atom n.text.toList := by
  have hbody := toList_body (values_ofAtoms (fun hatom => (Atom.of_ofAtom_numeric hatom).1) h) hne
  obtain ⟨hatoms, rfl, rfl, -⟩ := ofAtoms_eq_ok.mp h
  have hatom : ∀ atom ∈ atoms,
      LineValue.ofAtom f.key .numeric atLeast atom = .ok (Atom.lineNumber atLeast atom) := by
    intro atom ha
    obtain ⟨v, -, hv⟩ := Outcome.exists_of_forall₂ hatoms ha
    rwa [(Atom.of_ofAtom_numeric hv).1] at hv
  have hdenotes : ∀ a ∈ f.numberAlternatives atLeast atoms, Denotes a.1 a.2 := by
    intro a ha
    obtain ⟨atom, hmem, rfl⟩ := List.mem_map.mp ha
    exact denotes_alternative hkey (hatom atom hmem)
  have halternatives : f.numberAlternatives atLeast atoms ≠ [] := by
    simpa [numberAlternatives] using hne
  obtain ⟨p, hread, hfinds⟩ := Regex.exists_read_joinPieces halternatives hdenotes
  rw [store.finds_iff (hbody ▸ hread), hfinds]
  constructor
  · rintro ⟨before, part, after, hline, a, ha, hpart⟩
    obtain ⟨atom, hmem, rfl⟩ := List.mem_map.mp ha
    obtain ⟨ds, c, rfl, hds, hc⟩ := hpart
    obtain ⟨hchars, hdigits⟩ := hds.chars (hatom atom hmem)
    have hplace : (r.line w).toList =
        before ++ ((if f.strict then ['"'] else []) ++ f.key.toList) ++
          '"' :: ':' :: (ds ++ c :: after) := by
      rw [hline, toList_keyPattern]
      simp
    obtain ⟨e, he, hnamed, n, hn, rfl⟩ :=
      (FlowRecord.exists_number_iff w r hkey hstrict hchars hdigits).mp
        ⟨before, c, after, by simpa using hc, hplace⟩
    exact ⟨e, he, hnamed, n, hn, atom, hmem, hds⟩
  · rintro ⟨e, he, hnamed, n, hn, atom, hmem, htakes⟩
    obtain ⟨hchars, hdigits⟩ := htakes.chars (hatom atom hmem)
    obtain ⟨before, c, after, hc, hplace⟩ :=
      (FlowRecord.exists_number_iff w r hkey hstrict hchars hdigits).mpr
        ⟨e, he, hnamed, n, hn, rfl⟩
    refine ⟨before, f.keyPattern.toList ++ (n.text.toList ++ [c]), after, ?_, _,
      List.mem_map_of_mem hmem, n.text.toList, c, rfl, htakes, by simpa using hc⟩
    rw [hplace, toList_keyPattern]
    simp

/-- The digits of an integer are taken by a lower bound exactly if the integer is at least the
bound. -/
theorem takesNumber_ofInt_iff {atom : String} (h : Atom.isDigits (Atom.unquoted atom).toList = true)
    (m : Int) :
    Atom.TakesNumber true atom (Numeral.ofInt m).text.toList ↔
      (Nat.ofDigitChars 10 (Atom.unquoted atom).toList 0 : Int) ≤ m := by
  cases m with
  | ofNat k =>
    have htext : (Numeral.ofInt (Int.ofNat k)).text.toList = Nat.toDigits 10 k := Nat.toList_repr
    rw [htext]
    exact (AtLeast.exists_alternative_iff (Atom.digits_of_isDigits h) k).trans Int.ofNat_le.symm
  | negSucc k =>
    have hsign : '-' ∈ (Numeral.ofInt (Int.negSucc k)).text.toList := by
      have htext : (Numeral.ofInt (Int.negSucc k)).text = "-" ++ Nat.repr (k + 1) := rfl
      simp [htext]
    constructor
    · rintro ⟨a, ha, htakes⟩
      have hdigits := AtLeast.digits_of_alternative (Atom.digits_significant h) ha htakes
      exact absurd (hdigits.1 _ hsign) (by decide)
    · intro hle
      omega

/-- A positive line filter for numbers keeps the line of a record exactly if a field that the key
names holds a number whose text is one of the atoms without their quotes; with a lower bound, where
the numbers of the record are integers, exactly if such a field holds a number that is at least as
large as one of the atoms. -/
theorem keeps_numeric_iff (hkey : Consists Text.isWord key) (hstrict : strict = true ∨ key ≠ "")
    (hne : atoms ≠ []) (h : ofAtoms key atoms .numeric strict false atLeast = .ok f) :
    (atLeast = false →
      (f.Keeps store (r.line w) ↔ ∃ e ∈ r, e.IsNamed strict key ∧
        ∃ n, e.value = .number n ∧ ∃ atom ∈ atoms, n.text = Atom.unquoted atom)) ∧
    (atLeast = true → (∀ e ∈ r, ∀ n, e.value = .number n → ∃ m : Int, n = .ofInt m) →
      (f.Keeps store (r.line w) ↔ ∃ e ∈ r, e.IsNamed strict key ∧
        ∃ m : Int, e.value = .number (.ofInt m) ∧
          ∃ atom ∈ atoms, (Nat.ofDigitChars 10 (Atom.unquoted atom).toList 0 : Int) ≤ m)) := by
  obtain ⟨hatoms, -, -, hnegated, -⟩ := ofAtoms_eq_ok.mp h
  rw [keeps_iff_of_positive hnegated, finds_numbers_iff hkey hstrict hne h]
  constructor
  · rintro rfl
    simp only [Atom.TakesNumber, Bool.false_eq_true, if_false, String.toList_inj]
  · rintro rfl hints
    have hdigits : ∀ atom ∈ atoms, Atom.isDigits (Atom.unquoted atom).toList = true := by
      intro atom ha
      obtain ⟨v, -, hv⟩ := Outcome.exists_of_forall₂ hatoms ha
      exact (Atom.of_ofAtom_numeric hv).2.2 rfl
    constructor
    · rintro ⟨e, he, hnamed, n, hn, atom, ha, htakes⟩
      obtain ⟨m, rfl⟩ := hints e he n hn
      exact ⟨e, he, hnamed, m, hn, atom, ha,
        (takesNumber_ofInt_iff (hdigits atom ha) m).mp htakes⟩
    · rintro ⟨e, he, hnamed, m, hn, atom, ha, hle⟩
      exact ⟨e, he, hnamed, _, hn, atom, ha,
        (takesNumber_ofInt_iff (hdigits atom ha) m).mpr hle⟩

/-- The field of a source port. -/
def sourcePort (n : Int) : RecordField := ⟨"SrcPort", by decide, .number (.ofInt n)⟩

/-- A record with a port, and with a text that looks like another one. -/
def portRecord : FlowRecord := [sourcePort 443, ⟨"Name", by decide, .text "Port\":80,"⟩]

/-- The record is found by its port, and by a lower bound on it, but not by the port in the text. -/
theorem keeps_numeric_iff_ports :
    ∃ f g, ofAtoms "Port" ["80"] .numeric false false false = .ok f ∧
      ofAtoms "Port" ["80"] .numeric false false true = .ok g ∧
      ¬f.Keeps .ascii (portRecord.line .required) ∧ g.Keeps .ascii (portRecord.line .required) := by
  have hkey : Consists Text.isWord "Port" := by decide
  have hstrict : false = true ∨ "Port" ≠ "" := .inr (by decide)
  have hne : ["80"] ≠ [] := List.cons_ne_nil _ _
  obtain ⟨f, hf⟩ := Outcome.exists_of_isOk
    (show (ofAtoms "Port" ["80"] .numeric false false false).isOk = true by decide +kernel)
  obtain ⟨g, hg⟩ := Outcome.exists_of_isOk
    (show (ofAtoms "Port" ["80"] .numeric false false true).isOk = true by decide +kernel)
  have hints : ∀ e ∈ portRecord, ∀ n, e.value = .number n → ∃ m : Int, n = .ofInt m := by
    simp [portRecord, sourcePort]
  refine ⟨f, g, hf, hg, ?_, ?_⟩
  · rw [(keeps_numeric_iff hkey hstrict hne hf).1 rfl]
    have hother : (Numeral.ofInt 443).text ≠ Atom.unquoted "80" := by decide +kernel
    simp [portRecord, sourcePort, hother]
  · rw [(keeps_numeric_iff hkey hstrict hne hg).2 rfl hints]
    exact ⟨_, List.mem_cons_self, by decide, 443, rfl, "80", List.mem_cons_self, by decide⟩

end LineFilter

end FlowConsole.LogQL
