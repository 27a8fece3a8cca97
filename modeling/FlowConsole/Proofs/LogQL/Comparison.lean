import FlowConsole.Proofs.Filter.Satisfaction
import FlowConsole.Proofs.LogQL.Scanning

/-!
# Texts of comparisons

What a store reads of a comparison that is written between quotes (`scan_render_text`), and when the
text of a comparison holds the sign that ends a parameter of an address (`amp_mem_comparison`).
-/

open FlowConsole.Filter (Match)
open FlowConsole.Text (Consists)

namespace FlowConsole.LogQL

/-! ### Scanned comparisons -/

/-- A comparison with a quoted text is read as its code and the text, if that is on one line; it is
not read at all if it is not. -/
theorem scan_render_text {f : LabelFilter} (hform : f.form = .text)
    (hkey : Consists Token.isCodeChar (f.key ++ f.operator.sign)) :
    scan f.render =
      if '\n' ∈ f.value.toList then none else some (f.key ++ f.operator.sign, [f.value]) := by
  have htext : f.render.toList =
      (f.key ++ f.operator.sign).toList ++ '"' :: (f.value.toList.flatMap escapeChar ++ ['"']) := by
    simp [LabelFilter.render, LabelFilter.valueText, hform, escape]
  have hcode : Scanner.run {} (f.key ++ f.operator.sign).toList =
      some ⟨(f.key ++ f.operator.sign).toList, [], .code⟩ :=
    Scanner.run_code [] [] hkey
  have hquote : Scanner.step ⟨(f.key ++ f.operator.sign).toList, [], .code⟩ '"' =
      some ⟨(f.key ++ f.operator.sign).toList, [], .quoted []⟩ := rfl
  rw [scan, htext, Scanner.run_of_append hcode, Scanner.run_cons, hquote, Option.bind_some]
  split
  · next hline =>
    rw [Scanner.run_escape_of_mem _ _ _ hline]
    rfl
  · next hline =>
    rw [Scanner.run_of_append (Scanner.run_escape_of_line _ _ _ hline)]
    simp [Scanner.run_cons, Scanner.run_nil, Scanner.step, Scanner.close]

/-! ### The sign between parameters -/

private theorem amp_mem_flatMap {f : Char → List Char} (h : ∀ c, '&' ∈ f c ↔ c = '&')
    (cs : List Char) : '&' ∈ cs.flatMap f ↔ '&' ∈ cs := by
  rw [List.mem_flatMap]
  constructor
  · rintro ⟨c, hc, hf⟩
    rw [← (h c).mp hf]
    exact hc
  · intro hc
    exact ⟨'&', hc, (h '&').mpr rfl⟩

private theorem amp_mem_escapeChar (c : Char) : '&' ∈ escapeChar c ↔ c = '&' := by
  rw [escapeChar]
  split
  · next hc =>
    constructor
    · intro h
      rw [List.mem_cons, List.mem_singleton] at h
      rcases h with h | h
      · cases h
      · exact h.symm
    · rintro rfl
      exact absurd hc (by decide)
  · rw [List.mem_singleton, eq_comm]

private theorem amp_mem_charPattern (c : Char) : '&' ∈ Atom.charPattern c ↔ c = '&' := by
  rw [Atom.charPattern]
  split_ifs with hstar hmeta
  · rw [hstar]
    decide
  · constructor
    · intro h
      rw [List.mem_cons, List.mem_singleton] at h
      rcases h with h | h
      · cases h
      · exact h.symm
    · rintro rfl
      exact absurd hmeta (by decide)
  · rw [List.mem_singleton, eq_comm]

/-- The pattern of an atom holds the sign between parameters if the atom does. -/
theorem Atom.amp_mem_pattern (atom : String) :
    '&' ∈ (pattern atom).toList ↔ '&' ∈ atom.toList := by
  rw [pattern, String.toList_ofList]
  exact amp_mem_flatMap amp_mem_charPattern atom.toList

/-- A quoted atom is the text between the quotes, and the quotes. -/
theorem Atom.toList_of_unquoted? {atom inner : String} (h : unquoted? atom = some inner) :
    atom.toList = '"' :: inner.toList ++ ['"'] := by
  obtain ⟨cs, hcs, rfl⟩ := Option.map_eq_some_iff.mp h
  rw [inner?.eq_def] at hcs
  split at hcs
  · next rest hatom =>
    split at hcs
    · next hlast =>
      cases hcs
      rw [hatom, String.toList_ofList, List.cons_append, List.dropLast_append_getLast? '"' hlast]
    · cases hcs
  · cases hcs

/-- The text between the quotes of an atom holds the sign between parameters if the atom does. -/
theorem Atom.amp_mem_of_unquoted? {atom inner : String} (h : unquoted? atom = some inner) :
    '&' ∈ inner.toList ↔ '&' ∈ atom.toList := by
  rw [toList_of_unquoted? h]
  simp

namespace LabelFilter

private theorem amp_mem_alternative (atom : String) :
    '&' ∈ (alternative atom).toList ↔ '&' ∈ atom.toList := by
  rw [alternative]
  cases h : Atom.unquoted? atom with
  | some inner =>
    have hstart : '&' ∉ (if inner.toList.head? = some '*' then "" else "^").toList := by
      split <;> decide
    have hstop : '&' ∉ (if inner.toList.getLast? = some '*' then "" else "$").toList := by
      split <;> decide
    simp only [String.toList_append, List.mem_append, Atom.amp_mem_pattern, hstart, hstop,
      Atom.amp_mem_of_unquoted? h, false_or, or_false]
  | none =>
    have hflag : '&' ∉ "(?i).*".toList := by decide
    have hrest : '&' ∉ ".*".toList := by decide
    simp only [String.toList_append, List.mem_append, Atom.amp_mem_pattern, hflag, hrest, false_or,
      or_false]

/-- The value of a filter of atoms holds the sign between parameters if one of them does. -/
theorem amp_mem_anyOf (key : String) (atoms : List String) (negated : Bool) :
    '&' ∈ (anyOf key atoms negated).value.toList ↔ ∃ atom ∈ atoms, '&' ∈ atom.toList := by
  rw [anyOf, Text.mem_join (by decide)]
  simp [amp_mem_alternative]

/-- The value of the filter of the atoms of a match holds the sign between parameters if one of them
does. -/
theorem amp_mem_ofAtoms (key : String) (atoms : List String) (negated : Bool) :
    '&' ∈ (ofAtoms key atoms negated).value.toList ↔ ∃ atom ∈ atoms, '&' ∈ atom.toList := by
  rw [ofAtoms.eq_def]
  split
  · next atom =>
    split
    · next hexact =>
      obtain ⟨inner, hinner, -⟩ := Atom.unquoted?_of_isExact hexact
      simp [text, hinner, Atom.amp_mem_of_unquoted? hinner]
    · exact amp_mem_anyOf key [atom] negated
  · exact amp_mem_anyOf key _ negated

/-- The text of a label filter holds the sign between parameters if its name or its value does. -/
theorem amp_mem_render (f : LabelFilter) :
    '&' ∈ f.render.toList ↔ '&' ∈ f.key.toList ∨ '&' ∈ f.value.toList := by
  have hsign : '&' ∉ f.operator.sign.toList := by
    cases f.operator <;> decide
  have hescape (s : String) : '&' ∈ (escape s).toList ↔ '&' ∈ s.toList := by
    rw [escape, String.toList_ofList]
    exact amp_mem_flatMap amp_mem_escapeChar s.toList
  have htext : '&' ∈ f.valueText.toList ↔ '&' ∈ f.value.toList := by
    rw [valueText]
    cases f.form <;> simp [hescape]
  rw [render, String.toList_append, String.toList_append, List.mem_append, List.mem_append, htext]
  simp [hsign]

end LabelFilter

/-- The values of a match hold the sign between parameters if one of its atoms does. -/
theorem exists_amp_mem_atoms (m : Match) :
    (∃ atom ∈ m.atoms, '&' ∈ atom.toList) ↔ '&' ∈ m.values.toList := by
  rw [← Text.exists_mem_pieces (by decide : '&' ≠ ',')]
  simp [Match.atoms, Text.split]

/-- The text of a comparison holds the sign between parameters exactly if the match does. -/
theorem amp_mem_comparison (m : Match) :
    '&' ∈ m.comparison.render.toList ↔ '&' ∈ m.key.toList ∨ '&' ∈ m.values.toList := by
  have hvalue : '&' ∈ m.comparison.value.toList ↔ '&' ∈ m.values.toList := by
    rw [Match.comparison]
    split
    · exact Iff.rfl
    · rw [LabelFilter.amp_mem_ofAtoms, exists_amp_mem_atoms]
  rw [LabelFilter.amp_mem_render, hvalue, m.key_comparison]

end FlowConsole.LogQL
