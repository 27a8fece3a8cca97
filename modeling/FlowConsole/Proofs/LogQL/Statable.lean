import FlowConsole.Proofs.LogQL.Patterns

/-!
# Line filters that can be stated as label filters

Which matches can be stated after the `json` stage, once they have become line filters. A lower
bound always can, and so can a text. A number can be stated if it is made of digits only, since
neither a sign nor the escape before a point is read back, and a value of an array never is
(`LineFilter.toLabels?_ofAtoms`). Atoms with quotes inside are left aside: what such quotes lead to
depends on what stands around them.
-/

open FlowConsole.Text (Consists)

namespace FlowConsole.LogQL

/-! ### Atoms -/

namespace Atom

/-- The atom is looked for in an array, or is a number with a sign or a fraction. -/
def isLost (kind : LineKind) (atom : String) : Bool :=
  match kind with
  | .numeric => !isDigits (unquoted atom).toList
  | .array => true
  | .text => false

/-- The characters of the pattern of an atom come from those of the atom. -/
theorem mem_toList_pattern {atom : String} {c : Char} :
    c ∈ (pattern atom).toList ↔ ∃ d ∈ atom.toList, c ∈ charPattern d := by
  rw [pattern, String.toList_ofList, List.mem_flatMap]

/-- Patterns bring in no quote. -/
theorem quote_not_mem_pattern {atom : String} (h : '"' ∉ atom.toList) :
    '"' ∉ (pattern atom).toList := by
  rw [mem_toList_pattern]
  rintro ⟨d, hd, hc⟩
  rw [charPattern] at hc
  split_ifs at hc
  · exact absurd hc (by decide)
  · rw [List.mem_cons, List.mem_singleton] at hc
    rcases hc with hc | rfl
    · cases hc
    · exact h hd
  · exact h (List.mem_singleton.mp hc ▸ hd)

/-- Digits are their own pattern. -/
theorem pattern_of_isDigits {value : String} (h : isDigits value.toList = true) :
    pattern value = value := by
  rw [isDigits, Bool.and_eq_true] at h
  have hself : ∀ c ∈ value.toList, charPattern c = [c] := fun c hc =>
    charPattern_of_isDigit (List.all_eq_true.mp h.2 c hc)
  rw [pattern, List.flatMap_congr hself, List.flatMap_singleton', String.ofList_toList]

private theorem isDigits_of_unsigned {cs : List Char}
    (h : (match Text.cut? '.' cs with
      | none => isDigits cs
      | some (whole, fraction) => isDigits whole && isDigits fraction) = true)
    (hpoint : '.' ∉ cs) : isDigits cs = true := by
  split at h
  · exact h
  · next hcut =>
    rw [Text.eq_of_cut? hcut] at hpoint
    exact absurd (List.mem_append_right _ List.mem_cons_self) hpoint

private theorem unsigned_of_isDigits {cs : List Char} (h : isDigits cs = true) :
    (match Text.cut? '.' cs with
      | none => isDigits cs
      | some (whole, fraction) => isDigits whole && isDigits fraction) = true := by
  split
  · exact h
  · next hcut =>
    have hdigit := List.all_eq_true.mp (Bool.and_eq_true_iff.mp h).2 '.' <| by
      rw [Text.eq_of_cut? hcut]
      exact List.mem_append_right _ List.mem_cons_self
    cases hdigit

/-- Digits are a number. -/
theorem isNumber_of_isDigits {value : String} (h : isDigits value.toList = true) :
    isNumber value = true := by
  apply unsigned_of_isDigits
  split
  · next cs hcs =>
    rw [hcs] at h
    cases h
  · exact h

private theorem isDigits_of_isNumber {value : String} (h : isNumber value = true)
    (hsign : '-' ∉ value.toList) (hpoint : '.' ∉ value.toList) :
    isDigits value.toList = true := by
  have hall := isDigits_of_unsigned h
  split at hall
  · next cs hcs =>
    rw [hcs] at hsign
    exact absurd List.mem_cons_self hsign
  · exact hall hpoint

end Atom

/-! ### Values that are read back -/

namespace Recovered

private theorem isNameChar_quote : isNameChar '"' = false := by
  simp [isNameChar, Text.isAsciiWord]

private theorem isNameChar_colon : isNameChar ':' = false := by
  simp [isNameChar, Text.isAsciiWord]

private theorem ofValue?_eq_none_iff (name cs : List Char) :
    ofValue? name cs = none ↔ ofValue? [] cs = none := by
  unfold ofValue?
  split
  · rw [Option.map_eq_none_iff, Option.map_eq_none_iff]
  · split_ifs <;> simp

/-- A text without quotes holds no name. -/
theorem first?_of_quote_not_mem {cs : List Char} (h : '"' ∉ cs) : first? cs = none := by
  induction cs with
  | nil => rfl
  | cons c cs ih =>
    have hstart : atStart? (c :: cs) = none := by
      rw [atStart?]
      split
      · next rest hrest =>
        apply absurd _ h
        apply (List.dropWhile_sublist isNameChar).subset
        rw [hrest]
        exact List.mem_cons_self
      · rfl
    rw [first?, hstart, ih fun hc => h (List.mem_cons_of_mem _ hc)]
    rfl

/-- What follows a name, a quote and a colon is a value, or leads to one further on. -/
theorem first?_name {name : List Char} (hn : ∀ c ∈ name, isNameChar c = true) (rest : List Char) :
    first? (name ++ '"' :: ':' :: rest) = (ofValue? name rest).or (first? rest) := by
  have hstart : ∀ name : List Char, (∀ c ∈ name, isNameChar c = true) →
      atStart? (name ++ '"' :: ':' :: rest) = ofValue? name rest := by
    intro name hn
    rw [atStart?, List.dropWhile_append_of_pos hn, List.takeWhile_append_of_pos hn,
      List.dropWhile_cons_of_neg (by simp [isNameChar_quote]),
      List.takeWhile_cons_of_neg (by simp [isNameChar_quote]), List.append_nil]
    rfl
  induction name with
  | nil =>
    have hskip : atStart? (':' :: rest) = none := by
      rw [atStart?, List.dropWhile_cons_of_neg (by simp [isNameChar_colon])]
      rfl
    have hhere := hstart [] hn
    rw [List.nil_append] at hhere ⊢
    rw [first?, first?, hhere, hskip, Option.none_or]
  | cons c name ih =>
    rw [List.cons_append, first?, ← List.cons_append, hstart _ hn,
      ih fun d hd => hn d (List.mem_cons_of_mem _ hd)]
    cases hvalue : ofValue? (c :: name) rest with
    | some r => rfl
    | none =>
      have hshort : ofValue? name rest = none :=
        (ofValue?_eq_none_iff name rest).mpr ((ofValue?_eq_none_iff _ rest).mp hvalue)
      rw [hshort, Option.none_or]

/-- A quote that no colon follows is skipped. -/
theorem first?_quote_cons {cs : List Char} (h : cs.head? ≠ some ':') :
    first? ('"' :: cs) = first? cs := by
  have hstart : atStart? ('"' :: cs) = none := by
    rw [atStart?, List.dropWhile_cons_of_neg (by simp [isNameChar_quote])]
    split
    · next rest hrest =>
      cases hrest
      exact absurd rfl h
    · rfl
  rw [first?, hstart, Option.none_or]

private theorem ofValue?_eq_none_of_mem {cs : List Char} {c : Char} (hquote : '"' ∉ cs)
    (hc : c ∈ cs) (hdigit : Text.isAnyDigit c = false) : ofValue? [] cs = none := by
  have hstart : ∀ ds, cs = '"' :: ds → False := by
    rintro ds rfl
    exact hquote List.mem_cons_self
  rw [ofValue?.eq_2 _ _ hstart, if_neg]
  intro hall
  have := List.all_eq_true.mp (Bool.and_eq_true_iff.mp hall).2 c hc
  rw [hdigit] at this
  cases this

/-- A number is read back if it is made of digits. -/
theorem ofValue?_pattern_eq_none_iff {value : String} (h : Atom.isNumber value = true)
    (hquote : '"' ∉ value.toList) :
    ofValue? [] (Atom.pattern value).toList = none ↔ Atom.isDigits value.toList = false := by
  rw [← Bool.not_eq_true]
  constructor
  · intro hnone hdigits
    rw [Atom.pattern_of_isDigits hdigits] at hnone
    have hstart : ∀ ds, value.toList = '"' :: ds → False := by
      intro ds hds
      rw [hds] at hquote
      exact hquote List.mem_cons_self
    have hany : (!value.toList.isEmpty && value.toList.all Text.isAnyDigit) = true := by
      rw [Atom.isDigits, Bool.and_eq_true] at hdigits
      rw [Bool.and_eq_true, and_iff_right hdigits.1, List.all_eq_true]
      exact fun c hc => Text.isAnyDigit_of_isDigit (List.all_eq_true.mp hdigits.2 c hc)
    rw [ofValue?.eq_2 _ _ hstart, if_pos hany] at hnone
    cases hnone
  · intro hdigits
    have hpattern := Atom.quote_not_mem_pattern hquote
    by_cases hsign : '-' ∈ value.toList
    · have hc : '-' ∈ (Atom.pattern value).toList :=
        Atom.mem_toList_pattern.mpr ⟨'-', hsign, List.mem_singleton_self _⟩
      exact ofValue?_eq_none_of_mem hpattern hc (by simp)
    · by_cases hpoint : '.' ∈ value.toList
      · have hc : '\\' ∈ (Atom.pattern value).toList :=
          Atom.mem_toList_pattern.mpr ⟨'.', hpoint, List.mem_cons_self⟩
        exact ofValue?_eq_none_of_mem hpattern hc (by simp)
      · exact absurd (Atom.isDigits_of_isNumber h hsign hpoint) hdigits

private theorem quotedValue?_cons {c : Char} {cs : List Char} (hc : c ≠ '"')
    (h : quotedValue? cs ≠ none) : quotedValue? (c :: cs) ≠ none := by
  by_cases hcircumflex : ∃ ds, c = '^' ∧ cs = '"' :: ds
  · obtain ⟨ds, rfl, rfl⟩ := hcircumflex
    cases ds with
    | nil => decide
    | cons d ds =>
      rw [quotedValue?.eq_4 _ _ (fun _ h => by cases h) (fun _ h => by cases h), if_pos rfl] at h
      exact absurd rfl h
  · rw [quotedValue?.eq_4 _ _ (fun ds h₁ h₂ => hcircumflex ⟨ds, h₁, h₂⟩) (fun h => absurd h hc),
      if_neg hc, ne_eq, Option.map_eq_none_iff]
    exact h

/-- What stands before a quoted value without a quote of its own belongs to the value. -/
theorem quotedValue?_append {cs ds : List Char} (hcs : '"' ∉ cs) (hds : quotedValue? ds ≠ none) :
    quotedValue? (cs ++ ds) ≠ none := by
  induction cs with
  | nil => exact hds
  | cons c cs ih =>
    rw [List.mem_cons, not_or] at hcs
    exact quotedValue?_cons (Ne.symm hcs.1) (ih hcs.2)

end Recovered

/-! ### Line filters -/

/-- What is read back of several values is stated by at least one filter. -/
theorem Recovered.toLabels_ne_nil (negated : Bool) {rs : List Recovered} (h : rs ≠ []) :
    toLabels negated rs ≠ [] := by
  unfold toLabels
  split
  · exact absurd rfl h
  · exact List.cons_ne_nil _ _
  · split <;> exact List.cons_ne_nil _ _

namespace LineFilter

/-- A line filter that can be stated is stated by at least one label filter. -/
theorem ne_nil_of_toLabels? {f : LineFilter} {ls : List LabelFilter} (h : f.toLabels? = some ls) :
    ls ≠ [] := by
  rw [toLabels?] at h
  cases hv : f.values with
  | nil =>
    rw [hv] at h
    cases h
    exact List.cons_ne_nil _ _
  | cons v vs =>
    rw [hv, if_neg (by simp), List.mapM_cons, List.mapM_cons] at h
    split_ifs at h
    · obtain ⟨l, -, h⟩ := Option.bind_eq_some_iff.mp h
      obtain ⟨ls', -, h⟩ := Option.bind_eq_some_iff.mp h
      cases h
      exact List.cons_ne_nil _ _
    · obtain ⟨rs, hrs, rfl⟩ := Option.map_eq_some_iff.mp h
      obtain ⟨r, -, hrs⟩ := Option.bind_eq_some_iff.mp hrs
      obtain ⟨rs', -, hrs⟩ := Option.bind_eq_some_iff.mp hrs
      cases hrs
      exact Recovered.toLabels_ne_nil _ (List.cons_ne_nil _ _)

/-- The name of a field leads to the value that is searched for, or to one inside it. -/
theorem first?_fragment {f : LineFilter} (hkey : Consists Recovered.isNameChar f.key)
    (v : LineValue) :
    Recovered.first? (f.fragment v).toList =
      (Recovered.ofValue? f.key.toList v.pattern.toList).or
        (Recovered.first? v.pattern.toList) := by
  have hname := Recovered.first?_name hkey v.pattern.toList
  have htext : (f.fragment v).toList = (if f.strict then ['"'] else []) ++
      (f.key.toList ++ '"' :: ':' :: v.pattern.toList) := by
    rw [fragment, keyPattern, String.toList_append, String.toList_append, String.toList_append]
    cases f.strict <;> simp
  rw [htext]
  cases f.strict with
  | false => exact hname
  | true =>
    rw [← hname, if_pos rfl, List.singleton_append, Recovered.first?_quote_cons]
    -- a name has no colon at its start, and without a name the quote comes first
    intro hhead
    cases hk : f.key.toList with
    | nil =>
      rw [hk] at hhead
      cases hhead
    | cons c cs =>
      rw [hk] at hhead
      cases hhead
      have := hkey ':' (hk ▸ List.mem_cons_self)
      rw [Recovered.isNameChar_colon] at this
      cases this

/-- An atom without quotes inside, looked for in a field, is read back unless it is lost. -/
theorem first?_ofAtom {f : LineFilter} {key atom : String} {kind : LineKind} {v : LineValue}
    (hkey : Consists Recovered.isNameChar f.key) (hquote : '"' ∉ (Atom.unquoted atom).toList)
    (hv : LineValue.ofAtom key kind false atom = .ok v) :
    Recovered.first? (f.fragment v).toList = none ↔ Atom.isLost kind atom = true := by
  rw [first?_fragment hkey, Option.or_eq_none_iff, Recovered.ofValue?_eq_none_iff]
  have hpattern := Atom.quote_not_mem_pattern hquote
  unfold LineValue.ofAtom at hv
  cases kind with
  | numeric =>
    dsimp only at hv
    rw [if_neg Bool.false_ne_true] at hv
    split_ifs at hv with hnumber
    cases hv
    have hnested := Recovered.first?_of_quote_not_mem hpattern
    rw [LineValue.pattern, and_iff_left hnested,
      Recovered.ofValue?_pattern_eq_none_iff hnumber hquote, Atom.isLost, Bool.not_eq_true']
  | array =>
    cases hv
    have hbrackets :
        '"' ∉ (LineValue.pattern ⟨.arrayContains, Atom.pattern (Atom.unquoted atom)⟩).toList := by
      simp [LineValue.pattern, hpattern]
    have hopen :
        '[' ∈ (LineValue.pattern ⟨.arrayContains, Atom.pattern (Atom.unquoted atom)⟩).toList := by
      simp [LineValue.pattern]
    refine iff_of_true ⟨?_, Recovered.first?_of_quote_not_mem hbrackets⟩ rfl
    exact Recovered.ofValue?_eq_none_of_mem hbrackets hopen (by simp)
  | text =>
    refine iff_of_false ?_ Bool.false_ne_true
    rintro ⟨hvalue, -⟩
    have hend : Recovered.quotedValue? ['"'] ≠ none := by decide
    dsimp only at hv
    rw [if_neg Bool.false_ne_true] at hv
    split at hv
    · next inner hinner =>
      cases hv
      rw [Atom.unquoted, hinner, Option.getD_some] at hpattern
      have htext : (LineValue.pattern ⟨.text, Atom.pattern inner⟩).toList =
          '"' :: ((Atom.pattern inner).toList ++ ['"']) := by
        simp [LineValue.pattern]
      rw [htext, Recovered.ofValue?, Option.map_eq_none_iff] at hvalue
      exact Recovered.quotedValue?_append hpattern hend hvalue
    · next hinner =>
      cases hv
      rw [Atom.unquoted, hinner, Option.getD_none] at hpattern
      have htext : (LineValue.pattern ⟨.contains, Atom.pattern atom⟩).toList =
          '"' :: ("(?i)[".toList ++ '^' :: '"' ::
            (("]*".toList ++ (Atom.pattern atom).toList ++ ".*".toList) ++ ['"'])) := by
        simp [LineValue.pattern]
      have hinside : '"' ∉ "]*".toList ++ (Atom.pattern atom).toList ++ ".*".toList := by
        simp [hpattern]
      rw [htext, Recovered.ofValue?, Option.map_eq_none_iff] at hvalue
      refine Recovered.quotedValue?_append (by decide) ?_ hvalue
      rw [Recovered.quotedValue?, ne_eq, Option.map_eq_none_iff]
      exact Recovered.quotedValue?_append hinside hend

/-- The value of a lower bound is the atom without its quotes, and made of digits. -/
theorem bound_of_ofAtom {key atom : String} {kind : LineKind} {v : LineValue}
    (h : LineValue.ofAtom key kind true atom = .ok v) :
    v = ⟨.atLeast, Atom.unquoted atom⟩ ∧ Atom.isDigits (Atom.unquoted atom).toList = true := by
  unfold LineValue.ofAtom at h
  cases kind with
  | numeric =>
    dsimp only at h
    rw [if_pos rfl] at h
    split_ifs at h with hdigits
    cases h
    exact ⟨rfl, hdigits⟩
  | array => cases h
  | text => cases h

/-- Without a lower bound, no value is one. -/
theorem form_of_ofAtom {key atom : String} {kind : LineKind} {v : LineValue}
    (h : LineValue.ofAtom key kind false atom = .ok v) : (v.form == .atLeast) = false := by
  unfold LineValue.ofAtom at h
  cases kind with
  | numeric =>
    dsimp only at h
    rw [if_neg Bool.false_ne_true] at h
    split_ifs at h
    cases h
    rfl
  | array =>
    cases h
    rfl
  | text =>
    dsimp only at h
    rw [if_neg Bool.false_ne_true] at h
    split at h <;> cases h <;> rfl

/-- A line filter of atoms has a value for each atom, and the name and the flags it is made for. -/
theorem ofAtoms_eq_ok {key : String} {atoms : List String} {kind : LineKind}
    {strict negated atLeast : Bool} {f : LineFilter} :
    ofAtoms key atoms kind strict negated atLeast = .ok f ↔
      List.Forall₂ (fun atom v => LineValue.ofAtom key kind atLeast atom = .ok v) atoms f.values ∧
        f.key = key ∧ f.strict = strict ∧ f.negated = negated ∧ f.allowEmpty = false := by
  rw [ofAtoms, Outcome.bind_eq_ok]
  constructor
  · rintro ⟨values, hvalues, hf⟩
    cases hf
    exact ⟨Outcome.mapM_eq_ok.mp hvalues, rfl, rfl, rfl, rfl⟩
  · rintro ⟨hvalues, rfl, rfl, rfl, hempty⟩
    refine ⟨f.values, Outcome.mapM_eq_ok.mpr hvalues, ?_⟩
    rw [← hempty]
    rfl

/-- A line filter of atoms has a value. -/
theorem values_ne_nil_of_ofAtoms {key : String} {atoms : List String} {kind : LineKind}
    {strict negated atLeast : Bool} {f : LineFilter} (hne : atoms ≠ [])
    (h : ofAtoms key atoms kind strict negated atLeast = .ok f) : f.values ≠ [] := by
  obtain ⟨hvalues, -⟩ := ofAtoms_eq_ok.mp h
  obtain ⟨atom, ha⟩ := List.exists_mem_of_ne_nil atoms hne
  obtain ⟨v, hv, -⟩ := Outcome.exists_of_forall₂ hvalues ha
  exact List.ne_nil_of_mem hv

/-- If the atoms determine the values, the values of a line filter are those of its atoms. -/
theorem values_ofAtoms {key : String} {atoms : List String} {kind : LineKind}
    {strict negated atLeast : Bool} {f : LineFilter} {value : String → LineValue}
    (hvalue : ∀ {atom v}, LineValue.ofAtom key kind atLeast atom = .ok v → v = value atom)
    (h : ofAtoms key atoms kind strict negated atLeast = .ok f) :
    f.values = atoms.map value := by
  obtain ⟨hvalues, -⟩ := ofAtoms_eq_ok.mp h
  have heq : List.Forall₂ (fun atom v => value atom = v) atoms f.values :=
    hvalues.imp fun _ _ hatom => (hvalue hatom).symm
  rw [← List.forall₂_map_left_iff (f := value) (R := Eq), List.forall₂_eq_eq_eq] at heq
  exact heq.symm

/-- The values of lower bounds are digits. -/
theorem bounds_of_ofAtoms {key : String} {atoms : List String} {kind : LineKind}
    {strict negated : Bool} {f : LineFilter}
    (h : ofAtoms key atoms kind strict negated true = .ok f) :
    ∀ v ∈ f.values, v.form = .atLeast ∧ Atom.isDigits v.text.toList = true := by
  obtain ⟨hvalues, -⟩ := ofAtoms_eq_ok.mp h
  intro v hv
  obtain ⟨atom, -, hatom⟩ := Outcome.exists_of_forall₂ hvalues.flip hv
  obtain ⟨rfl, hdigits⟩ := bound_of_ofAtom hatom
  exact ⟨rfl, hdigits⟩

/-- The values are bounds if and only if the filter is one of lower bounds. -/
theorem all_atLeast_of_ofAtoms {key : String} {atoms : List String} {kind : LineKind}
    {strict negated atLeast : Bool} {f : LineFilter}
    (h : ofAtoms key atoms kind strict negated atLeast = .ok f) (hne : f.values ≠ []) :
    (f.values.all fun v => v.form == .atLeast) = atLeast := by
  cases atLeast with
  | true =>
    rw [List.all_eq_true]
    exact fun v hv => beq_iff_eq.mpr (bounds_of_ofAtoms h v hv).1
  | false =>
    obtain ⟨v, hv⟩ := List.exists_mem_of_ne_nil _ hne
    obtain ⟨atom, -, hatom⟩ := Outcome.exists_of_forall₂ (ofAtoms_eq_ok.mp h).1.flip hv
    rw [List.all_eq_false]
    exact ⟨v, hv, by simp [form_of_ofAtom hatom]⟩

/-- Lower bounds are stated as they are. -/
theorem toLabels?_of_atLeast {key : String} {atoms : List String} {kind : LineKind}
    {strict negated : Bool} {f : LineFilter}
    (h : ofAtoms key atoms kind strict negated true = .ok f) (hne : f.values ≠ []) :
    f.toLabels? = some (f.values.map fun v => ⟨f.key, .atLeast, v.text, .number⟩) := by
  rw [toLabels?, if_neg (by simpa using hne), if_pos (all_atLeast_of_ofAtoms h hne)]
  apply Outcome.mapM_eq_some_map
  intro v hv
  rw [LabelFilter.atLeast, if_pos (Atom.isNumber_of_isDigits (bounds_of_ofAtoms h v hv).2)]
  rfl

/-- A line filter of atoms without quotes inside cannot be stated if it has no bound and one of the
atoms is lost. -/
theorem toLabels?_ofAtoms {key : String} {atoms : List String} {kind : LineKind}
    {strict negated atLeast : Bool} {f : LineFilter} (hkey : Consists Recovered.isNameChar key)
    (hquotes : ∀ atom ∈ atoms, '"' ∉ (Atom.unquoted atom).toList)
    (h : ofAtoms key atoms kind strict negated atLeast = .ok f) :
    f.toLabels? = none ↔ atLeast = false ∧ ∃ atom ∈ atoms, Atom.isLost kind atom = true := by
  cases atLeast with
  | true =>
    refine iff_of_false ?_ (fun hlost => Bool.false_ne_true hlost.1.symm)
    by_cases hne : f.values = []
    · simp [toLabels?, hne]
    · rw [toLabels?_of_atLeast h hne]
      exact Option.some_ne_none _
  | false =>
    obtain ⟨hvalues, rfl, -⟩ := ofAtoms_eq_ok.mp h
    rw [and_iff_right rfl]
    by_cases hne : f.values = []
    · rw [hne, List.forall₂_nil_right_iff] at hvalues
      simp [toLabels?, hne, hvalues]
    · rw [toLabels?, if_neg (by simpa using hne), all_atLeast_of_ofAtoms h hne,
        if_neg Bool.false_ne_true, Option.map_eq_none_iff, Outcome.mapM_eq_none]
      constructor
      · rintro ⟨w, hw, hnone⟩
        obtain ⟨a, ha, haw⟩ := Outcome.exists_of_forall₂ hvalues.flip hw
        exact ⟨a, ha, (first?_ofAtom hkey (hquotes a ha) haw).mp hnone⟩
      · rintro ⟨a, ha, hlost⟩
        obtain ⟨w, hw, haw⟩ := Outcome.exists_of_forall₂ hvalues ha
        exact ⟨w, hw, (first?_ofAtom hkey (hquotes a ha) haw).mpr hlost⟩

end LineFilter

end FlowConsole.LogQL
