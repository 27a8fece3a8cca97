import FlowConsole.Proofs.Regex.Groups

/-!
# Expressions that ignore case from some place on

What characters match may depend on whether case is ignored where they are read, and with the flag
of case in them it is ignored after them (`DenotesFrom`). Between alternatives the flag goes on, so
an alternative is read from what the ones before it leave (`exists_read_joinPieces_from`). A group
ends it: after a group, case is as it was before (`DenotesFrom.group`).
-/

namespace FlowConsole.Regex

/-- Where case is ignored or not, the characters are read as parts that match the texts of a kind,
wherever these stand, and leave case ignored or not. -/
def DenotesFrom (before : Bool) (cs : List Char) (p : CaseFolding → List Char → Prop)
    (after : Bool) : Prop :=
  ∃ rs, Reader.Extends before cs rs after ∧
    ∀ k earlier text later, (sequence rs).Matches k earlier text later ↔ p k text

section

variable {first second third : Bool} {cs ds : List Char} {p q : CaseFolding → List Char → Prop}

/-- What is denoted may be said in other words. -/
theorem DenotesFrom.congr (h : DenotesFrom first cs p second)
    (hpq : ∀ k text, p k text ↔ q k text) : DenotesFrom first cs q second := by
  obtain ⟨rs, hextends, hrs⟩ := h
  exact ⟨rs, hextends, fun k earlier text later => (hrs k earlier text later).trans (hpq k text)⟩

/-- Characters in order denote texts in order, the later ones from what the earlier ones leave. -/
theorem DenotesFrom.append (h : DenotesFrom first cs p second)
    (h' : DenotesFrom second ds q third) :
    DenotesFrom first (cs ++ ds) (fun k text => ∃ u v, text = u ++ v ∧ p k u ∧ q k v) third := by
  obtain ⟨rs, hextends, hrs⟩ := h
  obtain ⟨ss, hextends', hss⟩ := h'
  refine ⟨rs ++ ss, hextends.append hextends', fun k earlier text later => ?_⟩
  simp only [matches_sequence_append, hrs, hss]

/-- The flag of case denotes the empty text. -/
theorem denotesFrom_ignoreCase (ignoreCase : Bool) :
    DenotesFrom ignoreCase "(?i)".toList (fun _ text => text = []) true :=
  ⟨[], Reader.extends_ignoreCase ignoreCase, fun _ _ _ _ => Iff.rfl⟩

/-- All characters but one, with a star, denote the texts without it, if it is a sign without
case. -/
theorem denotesFrom_without (ignoreCase : Bool) {c : Char} (hcase : c.toNat < 128)
    (halpha : c.isAlpha = false) (hc : c ≠ ']') :
    DenotesFrom ignoreCase ['[', '^', c, ']', '*'] (fun _ text => c ∉ text) ignoreCase := by
  have hend : ']' ∉ ['^', c] := by simp [hc.symm]
  have hadds := Reader.adds_brackets_star ignoreCase hend (List.cons_ne_nil _ _) (by simp)
  have hset : bracketSet ['^', c] = .ranges true [(c, c)] := rfl
  rw [hset] at hadds
  refine ⟨_, hadds.extends, fun k earlier text later => ?_⟩
  -- a character is in the range of one sign only if it is that sign
  have hrange : ∀ d, InRanges k ignoreCase d [(c, c)] ↔ c = d := by
    intro d
    simp only [InRanges, List.mem_singleton, exists_eq_left]
    constructor
    · rintro ⟨e, he, hle, hge⟩
      rw [← Char.le_antisymm hle hge] at he
      exact (k.reads_iff_of_caseless ignoreCase hcase halpha).mp he
    · rintro rfl
      exact ⟨c, k.reads_self ignoreCase c, Char.le_refl c, Char.le_refl c⟩
  simp only [sequence, matches_seq, matches_star, matches_empty, CharSet.Has, if_true, hrange]
  constructor
  · rintro ⟨u, -, rfl, hu, rfl⟩
    rw [List.append_nil]
    exact fun hmem => hu c hmem rfl
  · exact fun hmem => ⟨text, [], (List.append_nil text).symm, fun d hd h => hmem (h ▸ hd), rfl⟩

/-- A group of characters denotes what they denote, and leaves case as it was. -/
theorem DenotesFrom.group (h : DenotesFrom first cs p second) :
    DenotesFrom first ('(' :: cs ++ [')']) p first := by
  obtain ⟨rs, hextends, hrs⟩ := h
  have hgroup : Reader.Alternatives first [cs] [sequence rs] := .last hextends
  refine ⟨_, hgroup.adds_group.extends, fun k earlier text later => ?_⟩
  simp only [sequence, oneOf, matches_seq, matches_empty, hrs]
  constructor
  · rintro ⟨u, -, rfl, hu, rfl⟩
    rwa [List.append_nil]
  · exact fun htext => ⟨text, [], (List.append_nil text).symm, htext, rfl⟩

/-- Characters that stand alone are read as an expression that matches the texts that they
denote. -/
theorem DenotesFrom.exists_read (h : DenotesFrom false cs p second) :
    ∃ r, read cs = some r ∧ ∀ k earlier text later, r.Matches k earlier text later ↔ p k text := by
  obtain ⟨rs, hextends, hrs⟩ := h
  have halone : Reader.Alternatives false [cs] [sequence rs] := .last hextends
  exact ⟨sequence rs, halone.read_joinPieces, hrs⟩

end

/-! ### Alternatives -/

/-- An element of a list with a first one, and what comes before it, are the first one and nothing
or an element of the rest and what comes before that. -/
theorem exists_split_cons {α : Type} {a : α} {as : List α} {p : List α → α → Prop} :
    (∃ pre b post, a :: as = pre ++ b :: post ∧ p pre b) ↔
      p [] a ∨ ∃ pre b post, as = pre ++ b :: post ∧ p (a :: pre) b := by
  constructor
  · rintro ⟨pre, b, post, hsplit, hp⟩
    cases pre with
    | nil =>
      obtain ⟨rfl, -⟩ := List.cons.inj hsplit
      exact .inl hp
    | cons c pre =>
      obtain ⟨rfl, hrest⟩ := List.cons.inj hsplit
      exact .inr ⟨pre, b, post, hrest, hp⟩
  · rintro (hp | ⟨pre, b, post, rfl, hp⟩)
    · exact ⟨[], a, as, rfl, hp⟩
    · exact ⟨a :: pre, b, post, rfl, hp⟩

variable {α : Type} {chars : α → List Char} {leaves : Bool → α → Bool}
  {p : Bool → α → CaseFolding → List Char → Prop} {as : List α}

private theorem exists_alternatives_from (hne : as ≠ [])
    (h : ∀ ignoreCase, ∀ a ∈ as,
      DenotesFrom ignoreCase (chars a) (p ignoreCase a) (leaves ignoreCase a))
    (ignoreCase : Bool) :
    ∃ bs, Reader.Alternatives ignoreCase (as.map chars) bs ∧
      ∀ k earlier text later, (∃ b ∈ bs, b.Matches k earlier text later) ↔
        ∃ pre a post, as = pre ++ a :: post ∧ p (pre.foldl leaves ignoreCase) a k text := by
  induction as generalizing ignoreCase with
  | nil => exact absurd rfl hne
  | cons a as ih =>
    obtain ⟨rs, hextends, hrs⟩ := h ignoreCase a List.mem_cons_self
    cases as with
    | nil =>
      refine ⟨[sequence rs], .last hextends, fun k earlier text later => ?_⟩
      rw [exists_split_cons]
      simp [hrs]
    | cons b as =>
      obtain ⟨bs, hbs, hmatches⟩ := ih (List.cons_ne_nil b as)
        (fun ignoreCase c hc => h ignoreCase c (List.mem_cons_of_mem a hc)) (leaves ignoreCase a)
      refine ⟨sequence rs :: bs, .more hextends hbs, fun k earlier text later => ?_⟩
      rw [List.exists_mem_cons_iff, hmatches, hrs]
      exact (exists_split_cons (p := fun pre c => p (pre.foldl leaves ignoreCase) c k text)).symm

/-- Alternatives are read as an expression that matches what one of them denotes, from what the
ones before it leave. -/
theorem exists_read_joinPieces_from (hne : as ≠ [])
    (h : ∀ ignoreCase, ∀ a ∈ as,
      DenotesFrom ignoreCase (chars a) (p ignoreCase a) (leaves ignoreCase a)) :
    ∃ r, read (Text.joinPieces '|' (as.map chars)) = some r ∧
      ∀ k earlier text later, r.Matches k earlier text later ↔
        ∃ pre a post, as = pre ++ a :: post ∧ p (pre.foldl leaves false) a k text := by
  obtain ⟨bs, hbs, hmatches⟩ := exists_alternatives_from hne h false
  exact ⟨oneOf bs, hbs.read_joinPieces, fun k earlier text later =>
    (matches_oneOf hbs.ne_nil.2).trans (hmatches k earlier text later)⟩

end FlowConsole.Regex
