import FlowConsole.Proofs.Filter.Satisfaction
import FlowConsole.Proofs.LogQL.Texts

/-!
# Atoms as texts with gaps

The stars of an atom are gaps, and nothing else in it is: its pattern matches the texts that are the
atom with a text in each gap, character by character (`Atom.fits_iff_exists_fill`). An atom without
gaps, between quotes, is therefore compared by equality or by its expression with the same outcome
(`Atom.matches_pattern_iff`).
-/

namespace FlowConsole.LogQL.Atom

/-- The characters with texts in order in place of their stars. -/
def fill : List Char → List (List Char) → List Char
  | [], _ => []
  | c :: cs, texts =>
    if c = '*' then texts.headD [] ++ fill cs texts.tail else c :: fill cs texts

/-- A star gives way to the first text. -/
@[simp] theorem fill_star_cons (cs first : List Char) (texts : List (List Char)) :
    fill ('*' :: cs) (first :: texts) = first ++ fill cs texts := rfl

/-- Any other character stays. -/
theorem fill_cons {c : Char} (h : c ≠ '*') (cs : List Char) (texts : List (List Char)) :
    fill (c :: cs) texts = c :: fill cs texts := if_neg h

/-- With regard to case, characters fit the texts on one line that they are with a text in place of
each star. -/
theorem fits_iff_exists_fill {k : CaseFolding} {cs text : List Char} (h : '\n' ∉ text) :
    Fits k false cs text ↔ ∃ texts, texts.length = cs.count '*' ∧ text = fill cs texts := by
  induction cs generalizing text with
  | nil =>
    rw [Fits]
    constructor
    · intro htext
      exact ⟨[], rfl, htext⟩
    · rintro ⟨texts, -, htext⟩
      exact htext
  | cons c cs ih =>
    rw [Fits]
    by_cases hc : c = '*'
    · subst hc
      rw [if_pos rfl, List.count_cons_self]
      constructor
      · rintro ⟨u, v, rfl, -, hv⟩
        rw [List.mem_append, not_or] at h
        obtain ⟨texts, hlength, rfl⟩ := (ih h.2).mp hv
        refine ⟨u :: texts, ?_, (fill_star_cons cs u texts).symm⟩
        rw [List.length_cons, hlength]
      · rintro ⟨texts, hlength, htext⟩
        obtain ⟨first, texts, rfl⟩ := List.exists_cons_of_length_eq_add_one hlength
        rw [List.length_cons, Nat.add_right_cancel_iff] at hlength
        rw [fill_star_cons] at htext
        rw [htext, List.mem_append, not_or] at h
        exact ⟨first, _, htext, h.1, (ih h.2).mpr ⟨texts, hlength, rfl⟩⟩
    · rw [if_neg hc, List.count_cons_of_ne hc]
      constructor
      · rintro ⟨d, v, rfl, rfl, hv⟩
        rw [List.mem_cons, not_or] at h
        obtain ⟨texts, hlength, rfl⟩ := (ih h.2).mp hv
        exact ⟨texts, hlength, (fill_cons hc cs texts).symm⟩
      · rintro ⟨texts, hlength, htext⟩
        rw [fill_cons hc] at htext
        rw [htext, List.mem_cons, not_or] at h
        exact ⟨c, _, htext, rfl, (ih h.2).mpr ⟨texts, hlength, rfl⟩⟩

/-- The pattern of an atom matches the texts on one line that the atom is with a text in place of
each star. For an exact atom the comparison of a match is an equality with the text between its
quotes, or its negation, and selects what the expression made for any atoms selects. -/
theorem matches_pattern_iff (engine : Regex.Engine) (atom : String) :
    (∀ text : String, '\n' ∉ text.toList →
      (engine.Matches (pattern atom) text ↔
        ∃ texts, texts.length = atom.toList.count '*' ∧
          text.toList = fill atom.toList texts)) ∧
      (isExact atom = true → ∀ (key : String) (negated : Bool) (text : String),
        LabelFilter.ofAtoms key [atom] negated = .text key (unquoted atom) negated ∧
          ((LabelFilter.ofAtoms key [atom] negated).Selects engine text ↔
            (LabelFilter.anyOf key [atom] negated).Selects engine text)) := by
  constructor
  · intro text htext
    have hpattern : (pattern atom).toList = atom.toList.flatMap charPattern :=
      String.toList_ofList
    obtain ⟨r, hread, hmatches⟩ := (denotesFrom_chars false atom.toList).exists_read
    rw [engine.matches_iff (hpattern ▸ hread), Regex.MatchesAll, hmatches,
      fits_iff_exists_fill htext]
  · intro hexact key negated text
    obtain ⟨inner, hinner, -⟩ := unquoted?_of_isExact hexact
    refine ⟨?_, LabelFilter.selects_ofAtoms_iff_anyOf (List.cons_ne_nil _ _) negated⟩
    rw [LabelFilter.ofAtoms, if_pos hexact, unquoted, hinner]
    rfl

/-- A dot stands for itself where a star is filled, and an exact atom refuses the same text either
way. -/
theorem matches_pattern_dotted :
    '\n' ∉ "a7b.c".toList ∧ isExact "\"a.c\"" = true ∧
      Regex.Engine.ascii.Matches (pattern "a*.c") "a7b.c" ∧
      ¬(LabelFilter.anyOf "DstAddr" ["\"a.c\""] false).Selects .ascii "abc" := by
  have hline : '\n' ∉ "a7b.c".toList := by decide
  have hexact : isExact "\"a.c\"" = true := by decide
  obtain ⟨hofAtoms, hselects⟩ :=
    (matches_pattern_iff .ascii "\"a.c\"").2 hexact "DstAddr" false "abc"
  refine ⟨hline, hexact, ?_, fun h => ?_⟩
  · exact ((matches_pattern_iff .ascii "a*.c").1 "a7b.c" hline).mpr
      ⟨[['7', 'b']], by decide, by decide⟩
  · rw [← hselects, hofAtoms] at h
    have hequal : "abc" = unquoted "\"a.c\"" := h
    exact absurd hequal (by decide)

end FlowConsole.LogQL.Atom
