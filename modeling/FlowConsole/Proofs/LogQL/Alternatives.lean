import FlowConsole.Proofs.LogQL.Wildcards

/-!
# Several atoms against each of them

A label that is compared with several atoms is compared with their alternatives, joined to one
expression. Each alternative on its own matches the texts that its atom selects
(`matches_alternative_iff`). Joined, they match some more: the flag of an atom without quotes goes
on into the atoms after it, and those between quotes are then compared in any case as well
(`matches_anyOf_iff`). The order of the atoms does not matter where the ones that have case come
first.
-/

namespace FlowConsole.LogQL

namespace Atom

variable {k : CaseFolding} {atoms : List String} {atom text : String}

/-- Characters that fit a text fit it in any case. -/
theorem Fits.ignoringCase {cs text : List Char} (h : Fits k false cs text) :
    Fits k true cs text := by
  induction cs generalizing text with
  | nil => exact h
  | cons c cs ih =>
    rw [Fits] at h ⊢
    split_ifs at h ⊢
    · obtain ⟨u, v, htext, hu, hv⟩ := h
      exact ⟨u, v, htext, hu, ih hv⟩
    · obtain ⟨d, v, htext, rfl, hv⟩ := h
      exact ⟨c, v, htext, k.reads_self true c, ih hv⟩

/-- Some character of the atom has another one that differs from it in case only. -/
def HasCase (k : CaseFolding) (atom : String) : Prop :=
  ∃ c ∈ (unquoted atom).toList, c ≠ '*' ∧ ∃ d, k.Same c d ∧ d ≠ c

/-- The atoms between quotes that have case come before those without quotes. -/
def CasedFirst (k : CaseFolding) (atoms : List String) : Prop :=
  atoms.Pairwise fun first second =>
    unquoted? first = none → (unquoted? second).isSome = true → ¬HasCase k second

/-- An atom between quotes comes after one without, and selects the text in any case. -/
def SelectsLate (k : CaseFolding) (atoms : List String) (text : String) : Prop :=
  ∃ first second, [first, second].Sublist atoms ∧ unquoted? first = none ∧
    (unquoted? second).isSome = true ∧ Selects k true second text

private theorem fits_of_caseless {cs text : List Char}
    (hcase : ∀ c ∈ cs, c ≠ '*' → ∀ d, k.Same c d → d = c) (h : Fits k true cs text) :
    Fits k false cs text := by
  induction cs generalizing text with
  | nil => exact h
  | cons c cs ih =>
    rw [List.forall_mem_cons] at hcase
    rw [Fits] at h ⊢
    split_ifs at h ⊢ with hc
    · obtain ⟨u, v, htext, hu, hv⟩ := h
      exact ⟨u, v, htext, hu, ih hcase.2 hv⟩
    · obtain ⟨d, v, htext, hd, hv⟩ := h
      exact ⟨d, v, htext, (hcase.1 hc d hd).symm, ih hcase.2 hv⟩

/-- An atom without quotes ignores case by itself. -/
theorem selects_of_unquoted?_eq_none (ignoreCase : Bool) (h : unquoted? atom = none) :
    Selects k ignoreCase atom text ↔ Selects k true atom text := by
  simp [Selects, h]

/-- An atom selects in any case what it selects. -/
theorem Selects.ignoringCase (h : Selects k false atom text) : Selects k true atom text := by
  rw [Selects] at h ⊢
  split at h
  · exact h.ignoringCase
  · exact h

/-- An atom between quotes without case selects the same texts whether case is ignored or not. -/
theorem selects_of_not_hasCase (hquoted : (unquoted? atom).isSome = true)
    (hcase : ¬HasCase k atom) (h : Selects k true atom text) : Selects k false atom text := by
  obtain ⟨inner, hinner⟩ := Option.isSome_iff_exists.mp hquoted
  simp only [Selects, hinner] at h ⊢
  apply fits_of_caseless _ h
  intro c hc hstar d hd
  by_contra hne
  apply hcase
  rw [HasCase, unquoted, hinner, Option.getD_some]
  exact ⟨c, hc, hstar, d, hd, hne⟩

private theorem selectsAny_ignoringCase :
    SelectsAny k true atoms text ↔ ∃ atom ∈ atoms, Selects k true atom text := by
  induction atoms with
  | nil => simp [SelectsAny]
  | cons a as ih => rw [SelectsAny, ignoresCaseAfter, Bool.true_or, ih, List.exists_mem_cons_iff]

private theorem selectsLate_cons {atom : String} {atoms : List String} :
    SelectsLate k (atom :: atoms) text ↔
      (unquoted? atom = none ∧
        ∃ a ∈ atoms, (unquoted? a).isSome = true ∧ Selects k true a text) ∨
      SelectsLate k atoms text := by
  simp only [SelectsLate, List.sublist_cons_iff]
  constructor
  · rintro ⟨first, second, hsub | ⟨rest, heq, hsub⟩, hfirst, hsecond, hselects⟩
    · exact .inr ⟨first, second, hsub, hfirst, hsecond, hselects⟩
    · cases heq
      exact .inl ⟨hfirst, second, List.singleton_sublist.mp hsub, hsecond, hselects⟩
  · rintro (⟨hatom, a, ha, hquoted, hselects⟩ | ⟨first, second, hsub, hfirst, hsecond, hselects⟩)
    · exact ⟨atom, a, .inr ⟨[a], rfl, List.singleton_sublist.mpr ha⟩, hatom, hquoted, hselects⟩
    · exact ⟨first, second, .inl hsub, hfirst, hsecond, hselects⟩

/-- Some of several atoms selects what one of them selects on its own, or an atom between quotes
in any case after one without. -/
theorem selectsAny_iff :
    SelectsAny k false atoms text ↔
      (∃ atom ∈ atoms, Selects k false atom text) ∨ SelectsLate k atoms text := by
  induction atoms with
  | nil => simp [SelectsAny, SelectsLate]
  | cons a as ih =>
    rw [SelectsAny, ignoresCaseAfter, Bool.false_or, List.exists_mem_cons_iff, selectsLate_cons]
    cases ha : unquoted? a with
    | some inner => simp [ih, or_assoc]
    | none =>
      -- from here on case is ignored: for the atoms without quotes that makes no difference
      have hlate : SelectsLate k as text →
          ∃ b ∈ as, (unquoted? b).isSome = true ∧ Selects k true b text := by
        rintro ⟨first, second, hsub, -, hquoted, hselects⟩
        exact ⟨second, hsub.subset (by simp), hquoted, hselects⟩
      rw [Option.isNone_none, selectsAny_ignoringCase, or_assoc]
      apply or_congr_right
      constructor
      · rintro ⟨b, hb, hselects⟩
        by_cases hquoted : (unquoted? b).isSome = true
        · exact .inr (.inl ⟨rfl, b, hb, hquoted, hselects⟩)
        · rw [Bool.not_eq_true, Option.isSome_eq_false_iff, Option.isNone_iff_eq_none] at hquoted
          exact .inl ⟨b, hb, (selects_of_unquoted?_eq_none false hquoted).mpr hselects⟩
      · rintro (⟨b, hb, hselects⟩ | ⟨-, b, hb, -, hselects⟩ | h)
        · exact ⟨b, hb, hselects.ignoringCase⟩
        · exact ⟨b, hb, hselects⟩
        · obtain ⟨b, hb, -, hselects⟩ := hlate h
          exact ⟨b, hb, hselects⟩

/-- Where the atoms that have case come first, none of them selects more than it does on its
own. -/
theorem exists_selects_of_selectsLate (h : CasedFirst k atoms) (hlate : SelectsLate k atoms text) :
    ∃ atom ∈ atoms, Selects k false atom text := by
  obtain ⟨first, second, hsub, hfirst, hsecond, hselects⟩ := hlate
  have hcase : ¬HasCase k second :=
    List.pairwise_iff_forall_sublist.mp h hsub hfirst hsecond
  exact ⟨second, hsub.subset (by simp), selects_of_not_hasCase hsecond hcase hselects⟩

end Atom

namespace LabelFilter

/-- The alternative of an atom, on its own, matches the texts that the atom selects. -/
theorem matches_alternative_iff (engine : Regex.Engine) (atom text : String) :
    engine.Matches (alternative atom) text ↔ Atom.Selects engine.folding false atom text := by
  have h := matches_alternatives_iff (List.cons_ne_nil atom []) engine text
  rw [List.map_singleton, Text.join] at h
  simpa [Atom.SelectsAny] using h

/-- Joined alternatives match the texts that one of the atoms selects on its own, and those that an
atom between quotes selects in any case after an atom without quotes. Where the atoms that have case
come first there are no others, and the order of such atoms does not matter. -/
theorem matches_anyOf_iff {atoms : List String} (h : atoms ≠ []) (engine : Regex.Engine)
    (key : String) (negated : Bool) :
    (∀ text, engine.Matches (anyOf key atoms negated).value text ↔
      (∃ atom ∈ atoms, Atom.Selects engine.folding false atom text) ∨
        Atom.SelectsLate engine.folding atoms text) ∧
    (Atom.CasedFirst engine.folding atoms →
      (∀ text, engine.Matches (anyOf key atoms negated).value text ↔
        ∃ atom ∈ atoms, Atom.Selects engine.folding false atom text) ∧
      ∀ others, others.Perm atoms → Atom.CasedFirst engine.folding others →
        ∀ text, engine.Matches (anyOf key others negated).value text ↔
          engine.Matches (anyOf key atoms negated).value text) := by
  have hmatches : ∀ as : List String, as ≠ [] → ∀ text,
      engine.Matches (anyOf key as negated).value text ↔
        (∃ atom ∈ as, Atom.Selects engine.folding false atom text) ∨
          Atom.SelectsLate engine.folding as text := fun as has text =>
    (matches_alternatives_iff has engine text).trans Atom.selectsAny_iff
  have hfirst : ∀ as : List String, as ≠ [] → Atom.CasedFirst engine.folding as → ∀ text,
      engine.Matches (anyOf key as negated).value text ↔
        ∃ atom ∈ as, Atom.Selects engine.folding false atom text := fun as has hcased text =>
    (hmatches as has text).trans
      (or_iff_left_of_imp (Atom.exists_selects_of_selectsLate hcased))
  refine ⟨hmatches atoms h, fun hcased => ⟨hfirst atoms h hcased, ?_⟩⟩
  intro others hperm hothers text
  have hne : others ≠ [] := by
    rintro rfl
    exact h hperm.nil_eq.symm
  rw [hfirst others hne hothers, hfirst atoms h hcased]
  simp only [hperm.mem_iff]

/-- An atom between quotes before one without. -/
theorem matches_anyOf_iff_quotedFirst :
    ["\"B\"", "a"] ≠ [] ∧ Atom.CasedFirst .ascii ["\"B\"", "a"] ∧
      ∀ text, Regex.Engine.ascii.Matches (anyOf "K" ["\"B\"", "a"] false).value text ↔
        ∃ atom ∈ ["\"B\"", "a"], Atom.Selects .ascii false atom text := by
  have hne : ["\"B\"", "a"] ≠ [] := List.cons_ne_nil _ _
  have hcased : Atom.CasedFirst .ascii ["\"B\"", "a"] := by
    rw [Atom.CasedFirst, List.pairwise_pair]
    intro hquoted
    cases hquoted
  exact ⟨hne, hcased, ((matches_anyOf_iff hne .ascii "K" false).2 hcased).1⟩

/-- After an atom without quotes, the atom `"B"` selects a text that neither of the two selects on
its own, nor both in the other order. -/
theorem matches_anyOf_lowerCase :
    Regex.Engine.ascii.Matches (anyOf "K" ["1", "\"B\""] false).value "b" ∧
      (∀ atom ∈ ["1", "\"B\""], ¬Regex.Engine.ascii.Matches (alternative atom) "b") ∧
      ¬Regex.Engine.ascii.Matches (anyOf "K" ["\"B\"", "1"] false).value "b" := by
  have hbare : ¬Atom.Selects .ascii true "1" "b" := by
    rw [Atom.Selects, show Atom.unquoted? "1" = none from rfl]
    exact mt (Atom.fits_within_one (by decide) (by decide)).mp (by decide)
  have hupper : ¬Atom.Selects .ascii false "\"B\"" "b" := by
    simp [Atom.Selects, Atom.unquoted?, Atom.inner?, Atom.Fits, CaseFolding.Reads]
  have hlower : Atom.Selects .ascii true "\"B\"" "b" := by
    simp [Atom.Selects, Atom.unquoted?, Atom.inner?, Atom.Fits, CaseFolding.Reads,
      CaseFolding.ascii]
  have hcase : Atom.ignoresCaseAfter false "1" = true := rfl
  have hkept : Atom.ignoresCaseAfter false "\"B\"" = false := rfl
  have halone : ¬Atom.Selects .ascii false "1" "b" := mt Atom.Selects.ignoringCase hbare
  simp only [anyOf, matches_alternatives_iff (List.cons_ne_nil _ _), matches_alternative_iff]
  simp [Regex.Engine.ascii, Atom.SelectsAny, *]

end LabelFilter

end FlowConsole.LogQL
