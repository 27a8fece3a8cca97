import FlowConsole.Proofs.Filter.Satisfaction
import FlowConsole.Proofs.LogQL.AnyMatch

/-!
# What is read back of line filters

Where a line filter is stated after the `json` stage, names and values are read back from the
patterns of its values. If no atom has a quote inside, every value is read back as it is written,
under the name of the field. A quote inside a text ends the value too early for the reader, which
goes on to a later name, a quote and a colon: what it reads back then is always less than the value
(`FlowQuery.readsBack_iff`). Atoms may hold quotes and colons, so a text can pass for another field
(`FlowQuery.readsBack_nested`).
-/

open FlowConsole.Text (Consists)

namespace FlowConsole.LogQL

/-! ### The reader -/

namespace Recovered

/-- A text without quotes and circumflexes is read back as it is. -/
theorem quotedValue?_append_eq {cs : List Char} (hquote : '"' ∉ cs) (hcircumflex : '^' ∉ cs)
    (ds : List Char) : quotedValue? (cs ++ ds) = (quotedValue? ds).map (cs ++ ·) := by
  induction cs with
  | nil => simp
  | cons c cs ih =>
    rw [List.mem_cons, not_or] at hquote hcircumflex
    rw [List.cons_append,
      quotedValue?.eq_4 _ _ (fun _ hc => absurd hc (Ne.symm hcircumflex.1))
        (fun hc => absurd hc (Ne.symm hquote.1)),
      if_neg (Ne.symm hquote.1), ih hquote.2 hcircumflex.2, Option.map_map]
    rfl

/-- A quote with more text after it ends no value, unless a circumflex comes before it. -/
theorem quotedValue?_append_eq_none {cs ds : List Char} (hquote : '"' ∈ cs)
    (hcircumflex : '^' ∉ cs) (hds : ds ≠ []) : quotedValue? (cs ++ ds) = none := by
  induction cs with
  | nil => cases hquote
  | cons c cs ih =>
    rw [List.mem_cons, not_or] at hcircumflex
    rw [List.cons_append,
      quotedValue?.eq_4 _ _ (fun _ hc => absurd hc (Ne.symm hcircumflex.1))
        (fun _ hnil => hds (List.append_eq_nil_iff.mp hnil).2)]
    split_ifs with hc
    · rfl
    · rw [ih ((List.mem_cons.mp hquote).resolve_left (Ne.symm hc)) hcircumflex.2, Option.map_none]

private theorem length_of_quotedValue? {cs v : List Char} (h : quotedValue? cs = some v) :
    v.length ≤ cs.length := by
  induction cs using quotedValue?.induct generalizing v with
  | case1 =>
    cases h
    exact Nat.le_refl 0
  | case2 cs ih =>
    rw [quotedValue?] at h
    obtain ⟨w, hw, rfl⟩ := Option.map_eq_some_iff.mp h
    have hle : w.length ≤ cs.length := ih hw
    simpa using hle
  | case3 =>
    cases h
    exact Nat.zero_le 1
  | case4 cs hpair hlast =>
    rw [quotedValue?.eq_4 _ _ hpair hlast, if_pos rfl] at h
    cases h
  | case5 c cs hpair hlast hc ih =>
    rw [quotedValue?.eq_4 _ _ hpair hlast, if_neg hc] at h
    obtain ⟨w, hw, rfl⟩ := Option.map_eq_some_iff.mp h
    have hle : w.length ≤ cs.length := ih hw
    simpa using hle

private theorem length_of_ofValue? {name cs : List Char} {r : Recovered}
    (hend : ∀ c, [c] <:+ cs → Text.isAnyDigit c = false) (h : ofValue? name cs = some r) :
    r.value.toList.length + 1 ≤ cs.length := by
  unfold ofValue? at h
  split at h
  · obtain ⟨v, hv, rfl⟩ := Option.map_eq_some_iff.mp h
    rw [String.toList_ofList, List.length_cons]
    exact Nat.succ_le_succ (length_of_quotedValue? hv)
  · -- digits only would end with a digit
    split_ifs at h with hall
    rw [Bool.and_eq_true, Bool.not_eq_true', List.isEmpty_eq_false_iff] at hall
    have hlast := hend _ ⟨_, List.dropLast_append_getLast hall.1⟩
    rw [List.all_eq_true.mp hall.2 _ (List.getLast_mem hall.1)] at hlast
    cases hlast

private theorem length_of_atStart? {cs : List Char} {r : Recovered}
    (hend : ∀ c, [c] <:+ cs → Text.isAnyDigit c = false) (h : atStart? cs = some r) :
    r.value.toList.length + 3 ≤ cs.length := by
  unfold atStart? at h
  split at h
  · next rest hrest =>
    have hsuffix : '"' :: ':' :: rest <:+ cs := hrest ▸ List.dropWhile_suffix isNameChar
    have hvalue : r.value.toList.length + 1 ≤ rest.length := by
      apply length_of_ofValue? _ h
      intro c hc
      exact hend c ((hc.trans ⟨['"', ':'], rfl⟩).trans hsuffix)
    have hlength : rest.length + 2 ≤ cs.length := hsuffix.length_le
    omega
  · cases h

/-- What is read back is less than what it is read from, if that does not end with a digit. -/
theorem length_of_first? {cs : List Char} {r : Recovered}
    (hend : ∀ c, [c] <:+ cs → Text.isAnyDigit c = false) (h : first? cs = some r) :
    r.value.toList.length + 3 ≤ cs.length := by
  induction cs with
  | nil => cases h
  | cons c cs ih =>
    rw [first?, Option.or_eq_some_iff] at h
    rcases h with h | ⟨-, h⟩
    · exact length_of_atStart? hend h
    · have hle := ih (fun d hd => hend d (hd.trans (List.suffix_cons c cs))) h
      rw [List.length_cons]
      exact Nat.le_succ_of_le hle

end Recovered

/-! ### Values -/

/-- A value as it is written, without the quotes around it. -/
def LineValue.written (v : LineValue) : String :=
  match v.form with
  | .text => v.text
  | .contains => "(?i)[^\"]*" ++ v.text ++ ".*"
  | .number | .atLeast | .flag | .regex | .arrayContains => v.pattern

namespace LineFilter

/-- What there is to read back of a value: the name of the field and the value as it is written. -/
def own (f : LineFilter) (v : LineValue) : Recovered :=
  ⟨f.key, v.written, decide (v.form = .number)⟩

/-- The values that are read back are the written ones. Lower bounds are not read back. -/
def ReadsBack (f : LineFilter) : Prop :=
  ∀ v ∈ f.values, v.form = .atLeast ∨
    ∃ r, Recovered.first? (f.fragment v).toList = some r ∧ r.value = v.written

/-- The label filters of the name of the field and the values as they are written. -/
def stated (f : LineFilter) : List LabelFilter :=
  if f.values.all fun v => v.form == .atLeast then
    f.values.map fun v => ⟨f.key, .atLeast, v.text, .number⟩
  else Recovered.toLabels f.negated (f.values.map f.own)

variable {f : LineFilter} {key atom : String} {kind : LineKind} {v : LineValue} {r : Recovered}

private theorem circumflex_not_mem_pattern (hatom : Consists Filter.isValueChar atom) :
    '^' ∉ (Atom.pattern atom).toList := by
  rw [Atom.mem_toList_pattern]
  rintro ⟨d, hd, hc⟩
  have hvalue : Filter.isValueChar d = true := hatom d hd
  rw [Atom.charPattern] at hc
  split_ifs at hc
  · simp at hc
  · rw [List.mem_cons, List.mem_singleton] at hc
    rcases hc with hc | rfl
    · cases hc
    · simp [Filter.isValueChar, Text.isAsciiWord] at hvalue
  · rw [List.mem_singleton] at hc
    subst hc
    simp [Filter.isValueChar, Text.isAsciiWord] at hvalue

private theorem toList_pattern_text (inner : String) :
    (LineValue.pattern ⟨.text, inner⟩).toList = '"' :: (inner.toList ++ ['"']) := by
  simp [LineValue.pattern]

private theorem toList_pattern_contains (text : String) :
    (LineValue.pattern ⟨.contains, text⟩).toList =
      '"' :: ("(?i)[".toList ++ ('^' :: '"' ::
        ("]*".toList ++ (text.toList ++ ['.', '*', '"'])))) := by
  simp [LineValue.pattern]

-- What stands before the text that is looked for holds a quote after a circumflex, which does not
-- end the value.
private theorem quotedValue?_contains (cs : List Char) :
    Recovered.quotedValue? ("(?i)[".toList ++ ('^' :: '"' :: ("]*".toList ++ cs))) =
      (Recovered.quotedValue? cs).map ("(?i)[^\"]*".toList ++ ·) := by
  rw [Recovered.quotedValue?_append_eq (by decide) (by decide), Recovered.quotedValue?,
    Recovered.quotedValue?_append_eq (by decide) (by decide), Option.map_map, Option.map_map]
  rfl

private theorem ofValue?_pattern (hatom : Consists Filter.isValueChar (Atom.unquoted atom))
    (hv : LineValue.ofAtom key kind false atom = .ok v)
    (hquote : '"' ∉ (Atom.unquoted atom).toList) (hlost : Atom.isLost kind atom = false) :
    Recovered.ofValue? f.key.toList v.pattern.toList = some (f.own v) := by
  unfold LineValue.ofAtom at hv
  cases kind with
  | numeric =>
    rw [Atom.isLost, Bool.not_eq_false'] at hlost
    dsimp only at hv
    rw [if_neg Bool.false_ne_true, if_pos (Atom.isNumber_of_isDigits hlost)] at hv
    cases hv
    have hstart : ∀ ds, (Atom.unquoted atom).toList = '"' :: ds → False := by
      intro ds hds
      rw [hds] at hquote
      exact hquote List.mem_cons_self
    have hdigits : (!(Atom.unquoted atom).toList.isEmpty &&
        (Atom.unquoted atom).toList.all Text.isAnyDigit) = true := by
      rw [Atom.isDigits, Bool.and_eq_true] at hlost
      rw [Bool.and_eq_true, List.all_eq_true]
      exact ⟨hlost.1, fun c hc => Text.isAnyDigit_of_isDigit (List.all_eq_true.mp hlost.2 c hc)⟩
    simp only [LineValue.pattern, own, LineValue.written, Atom.pattern_of_isDigits hlost]
    rw [Recovered.ofValue?.eq_2 _ _ hstart, if_pos hdigits]
    simp
  | array => cases hlost
  | text =>
    dsimp only at hv
    rw [if_neg Bool.false_ne_true] at hv
    split at hv
    · next inner hunquoted =>
      cases hv
      rw [Atom.unquoted, hunquoted, Option.getD_some] at hquote hatom
      rw [toList_pattern_text, Recovered.ofValue?,
        Recovered.quotedValue?_append_eq (Atom.quote_not_mem_pattern hquote)
          (circumflex_not_mem_pattern hatom)]
      simp [own, LineValue.written, Recovered.quotedValue?]
    · next hunquoted =>
      cases hv
      rw [Atom.unquoted, hunquoted, Option.getD_none] at hquote hatom
      rw [toList_pattern_contains, Recovered.ofValue?, quotedValue?_contains,
        Recovered.quotedValue?_append_eq (Atom.quote_not_mem_pattern hquote)
          (circumflex_not_mem_pattern hatom)]
      simp [own, LineValue.written, Recovered.quotedValue?, ← String.toList_inj]

/-- Without a quote inside, what is read back of an atom is what is written, under the name of the
field. -/
theorem eq_own_of_first? (hkey : Consists Recovered.isNameChar f.key)
    (hatom : Consists Filter.isValueChar atom) (hv : LineValue.ofAtom key kind false atom = .ok v)
    (hquote : '"' ∉ (Atom.unquoted atom).toList)
    (h : Recovered.first? (f.fragment v).toList = some r) : r = f.own v := by
  have hlost : Atom.isLost kind atom = false := by
    rw [← Bool.not_eq_true, ← first?_ofAtom hkey hquote hv, h]
    exact Option.some_ne_none r
  rw [first?_fragment hkey, ofValue?_pattern (consists_unquoted hatom) hv hquote hlost,
    Option.some_or] at h
  exact (Option.some.inj h).symm

-- With a quote inside, the name of the field does not lead the reader to the value.
private theorem ofValue?_pattern_of_mem (hatom : Consists Filter.isValueChar (Atom.unquoted atom))
    (hv : LineValue.ofAtom key kind false atom = .ok v)
    (hquote : '"' ∈ (Atom.unquoted atom).toList) :
    Recovered.ofValue? f.key.toList v.pattern.toList = none ∧
      v.pattern.toList.length ≤ v.written.toList.length + 2 ∧
      ∃ cs c, v.pattern.toList = cs ++ [c] ∧ Text.isAnyDigit c = false := by
  have hmem : ∀ {s : String}, '"' ∈ s.toList → '"' ∈ (Atom.pattern s).toList := fun hs =>
    Atom.mem_toList_pattern.mpr ⟨'"', hs, by decide⟩
  unfold LineValue.ofAtom at hv
  cases kind with
  | numeric =>
    dsimp only at hv
    rw [if_neg Bool.false_ne_true] at hv
    split_ifs at hv with hnumber
    have hchar := number_of_isNumber hnumber '"' hquote
    simp [isNumberChar] at hchar
  | array =>
    cases hv
    have hend : (LineValue.pattern ⟨.arrayContains, Atom.pattern (Atom.unquoted atom)⟩).toList =
        '\\' :: ("[(?i)[^]]*".toList ++ (Atom.pattern (Atom.unquoted atom)).toList ++
          "[^]]*".toList) ++ [']'] := by
      simp [LineValue.pattern]
    refine ⟨?_, Nat.le_add_right _ 2, _, _, hend, rfl⟩
    rw [hend, List.cons_append, Recovered.ofValue?.eq_2 _ _ (fun _ hc => by cases hc)]
    simp
  | text =>
    dsimp only at hv
    rw [if_neg Bool.false_ne_true] at hv
    split at hv
    · next inner hunquoted =>
      cases hv
      rw [Atom.unquoted, hunquoted, Option.getD_some] at hquote hatom
      have hend := toList_pattern_text (Atom.pattern inner)
      refine ⟨?_, ?_, '"' :: (Atom.pattern inner).toList, '"', hend, rfl⟩
      · rw [hend, Recovered.ofValue?,
          Recovered.quotedValue?_append_eq_none (hmem hquote) (circumflex_not_mem_pattern hatom)
            (List.cons_ne_nil _ _), Option.map_none]
      · simp [hend, LineValue.written]
    · next hunquoted =>
      cases hv
      rw [Atom.unquoted, hunquoted, Option.getD_none] at hquote hatom
      have hpattern := toList_pattern_contains (Atom.pattern atom)
      have hend : (LineValue.pattern ⟨.contains, Atom.pattern atom⟩).toList =
          "\"(?i)[^\"]*".toList ++ (Atom.pattern atom).toList ++ ['.', '*'] ++ ['"'] := by
        simp [LineValue.pattern]
      refine ⟨?_, ?_, _, _, hend, rfl⟩
      · rw [hpattern, Recovered.ofValue?, quotedValue?_contains,
          Recovered.quotedValue?_append_eq_none (hmem hquote) (circumflex_not_mem_pattern hatom)
            (List.cons_ne_nil _ _), Option.map_none, Option.map_none]
      · simp [hend, LineValue.written]

/-- With a quote inside, what is read back of an atom is less than what is written. -/
theorem value_ne_written (hkey : Consists Recovered.isNameChar f.key)
    (hatom : Consists Filter.isValueChar atom) (hv : LineValue.ofAtom key kind false atom = .ok v)
    (hquote : '"' ∈ (Atom.unquoted atom).toList)
    (h : Recovered.first? (f.fragment v).toList = some r) : r.value ≠ v.written := by
  obtain ⟨hnone, hlength, cs, d, hpattern, hdigit⟩ :=
    ofValue?_pattern_of_mem (f := f) (consists_unquoted hatom) hv hquote
  have hend : ∀ c, [c] <:+ v.pattern.toList → Text.isAnyDigit c = false := by
    rintro c ⟨ds, hds⟩
    rw [hpattern] at hds
    rw [(List.append_inj' hds rfl).2 |> List.singleton_inj.mp, hdigit]
  rw [first?_fragment hkey, hnone, Option.none_or] at h
  have hshort : r.value.toList.length + 3 ≤ v.pattern.toList.length :=
    Recovered.length_of_first? hend h
  intro heq
  rw [heq] at hshort
  omega

variable {atoms : List String} {strict negated atLeast : Bool} {ls : List LabelFilter}

private theorem quote_not_mem_of_atLeast
    (h : ofAtoms key atoms kind strict negated true = .ok f) :
    ∀ atom ∈ atoms, '"' ∉ (Atom.unquoted atom).toList := by
  intro atom ha hquote
  obtain ⟨v, -, hatom⟩ := Outcome.exists_of_forall₂ (ofAtoms_eq_ok.mp h).1 ha
  obtain ⟨-, hdigits⟩ := bound_of_ofAtom hatom
  have hdigit := List.all_eq_true.mp (Bool.and_eq_true_iff.mp hdigits).2 '"' hquote
  cases hdigit

private theorem exists_of_toLabels? (h : ofAtoms key atoms kind strict negated false = .ok f)
    (hne : f.values ≠ []) (hls : f.toLabels? = some ls) :
    ∃ rs, f.values.mapM (fun v => Recovered.first? (f.fragment v).toList) = some rs ∧
      ls = Recovered.toLabels f.negated rs := by
  rw [toLabels?, all_atLeast_of_ofAtoms h hne, if_neg (by simpa using hne),
    if_neg Bool.false_ne_true] at hls
  obtain ⟨rs, hrs, rfl⟩ := Option.map_eq_some_iff.mp hls
  exact ⟨rs, hrs, rfl⟩

/-- The values of atoms are read back as they are written exactly if no atom has a quote inside. -/
theorem readsBack_ofAtoms (hkey : Consists Recovered.isNameChar f.key)
    (hatoms : ∀ atom ∈ atoms, Consists Filter.isValueChar atom)
    (h : ofAtoms key atoms kind strict negated atLeast = .ok f) (hne : f.values ≠ [])
    (hls : f.toLabels? = some ls) :
    f.ReadsBack ↔ ∀ atom ∈ atoms, '"' ∉ (Atom.unquoted atom).toList := by
  cases atLeast with
  | true =>
    exact iff_of_true (fun v hv => .inl (bounds_of_ofAtoms h v hv).1)
      (quote_not_mem_of_atLeast h)
  | false =>
    obtain ⟨rs, hrs, -⟩ := exists_of_toLabels? h hne hls
    obtain ⟨hvalues, -⟩ := ofAtoms_eq_ok.mp h
    constructor
    · intro hback atom ha hquote
      obtain ⟨v, hv, hatom⟩ := Outcome.exists_of_forall₂ hvalues ha
      rcases hback v hv with hform | ⟨r, hr, hvalue⟩
      · have hother := form_of_ofAtom hatom
        rw [hform] at hother
        cases hother
      · exact value_ne_written hkey (hatoms atom ha) hatom hquote hr hvalue
    · intro hquotes v hv
      obtain ⟨atom, ha, hatom⟩ := Outcome.exists_of_forall₂ hvalues.flip hv
      obtain ⟨r, -, hr⟩ := Outcome.exists_of_forall₂ (Outcome.mapM_eq_some.mp hrs) hv
      have hown := eq_own_of_first? hkey (hatoms atom ha) hatom (hquotes atom ha) hr
      exact .inr ⟨r, hr, congrArg Recovered.value hown⟩

/-- Without quotes inside, atoms are stated by the values as they are written. -/
theorem eq_stated_of_toLabels? (hkey : Consists Recovered.isNameChar f.key)
    (hatoms : ∀ atom ∈ atoms, Consists Filter.isValueChar atom)
    (h : ofAtoms key atoms kind strict negated atLeast = .ok f) (hne : f.values ≠ [])
    (hquotes : ∀ atom ∈ atoms, '"' ∉ (Atom.unquoted atom).toList)
    (hls : f.toLabels? = some ls) : ls = f.stated := by
  cases atLeast with
  | true =>
    rw [toLabels?_of_atLeast h hne, Option.some.injEq] at hls
    rw [stated, if_pos (all_atLeast_of_ofAtoms h hne), hls]
  | false =>
    obtain ⟨rs, hrs, hls⟩ := exists_of_toLabels? h hne hls
    obtain ⟨hvalues, -⟩ := ofAtoms_eq_ok.mp h
    have hown : ∀ v ∈ f.values, Recovered.first? (f.fragment v).toList = some (f.own v) := by
      intro v hv
      obtain ⟨atom, ha, hatom⟩ := Outcome.exists_of_forall₂ hvalues.flip hv
      obtain ⟨r, -, hr⟩ := Outcome.exists_of_forall₂ (Outcome.mapM_eq_some.mp hrs) hv
      rw [hr, eq_own_of_first? hkey (hatoms atom ha) hatom (hquotes atom ha) hr]
    rw [Outcome.mapM_eq_some_map hown] at hrs
    cases hrs
    rw [hls, stated, all_atLeast_of_ofAtoms h hne, if_neg Bool.false_ne_true]

end LineFilter

/-- A label filter that comes from recovered values is on a recovered name. -/
theorem Recovered.key_of_mem_toLabels {negated : Bool} {rs : List Recovered} {l : LabelFilter}
    (hl : l ∈ toLabels negated rs) : ∃ r ∈ rs, l.key = r.name := by
  have hlabel : ∀ (r : Recovered) (negated : Bool), (r.toLabel negated).key = r.name := by
    intro r negated
    rw [toLabel]
    split <;> rfl
  unfold toLabels at hl
  split at hl
  · cases hl
  · next r =>
    rw [List.mem_singleton] at hl
    exact ⟨r, List.mem_singleton_self r, hl ▸ hlabel r negated⟩
  · next r rs _ =>
    split at hl
    · rw [List.mem_singleton] at hl
      exact ⟨r, List.mem_cons_self, hl ▸ rfl⟩
    · obtain ⟨s, hs, rfl⟩ := List.mem_map.mp hl
      exact ⟨s, hs, hlabel s false⟩

/-- What is stated of values as they are written is on the field of the line filter. -/
theorem LineFilter.key_of_mem_stated {f : LineFilter} {l : LabelFilter} (hl : l ∈ f.stated) :
    l.key = f.key := by
  rw [stated] at hl
  split at hl
  · obtain ⟨v, -, rfl⟩ := List.mem_map.mp hl
    rfl
  · obtain ⟨r, hr, hkey⟩ := Recovered.key_of_mem_toLabels hl
    obtain ⟨v, -, rfl⟩ := List.mem_map.mp hr
    exact hkey

namespace FlowQuery

variable {q : FlowQuery} {m : Filter.Match} {f : LineFilter} {ls : List LabelFilter}

/-- A match adds a line filter if it becomes one, that of its field, its atoms and its flags. -/
theorem addMatch_eq_addLine_iff :
    q.addMatch m = .ok (q.addLine f) ↔
      becomesLine q.catalog m = true ∧ lineOf q.catalog m = .ok f := by
  constructor
  · intro h
    have hlines : ∀ g : LineFilter, q.lines ++ [g] ≠ q.lines := by simp
    rcases addMatch_routes h with ⟨hbecomes, g, hg, hadded⟩ | ⟨-, ⟨l, hadded⟩ | ⟨c, -, hadded⟩⟩
    · have hlast : q.lines ++ [f] = q.lines ++ [g] := congrArg FlowQuery.lines hadded
      rw [List.append_cancel_left_eq, List.singleton_inj] at hlast
      exact ⟨hbecomes, hlast ▸ hg⟩
    · exact absurd (congrArg FlowQuery.lines hadded) (hlines f)
    · exact absurd (congrArg FlowQuery.lines hadded) (hlines f)
  · rintro ⟨hbecomes, hf⟩
    rw [becomesLine, Bool.and_eq_true, Bool.not_eq_true'] at hbecomes
    rw [addMatch, hf]
    dsimp only
    rw [hbecomes.1, if_neg Bool.false_ne_true]
    split_ifs with hatLeast <;> simp_all [Except.map]

/-- A match that becomes a line filter which can be stated is stated on its own field, by the values
as they are written, exactly if none of its atoms has a quote inside. -/
theorem readsBack_iff (hm : m.Admitted) (hadd : q.addMatch m = .ok (q.addLine f))
    (hls : f.toLabels? = some ls) :
    ((∀ l ∈ ls, l.key = f.key) ∧ f.ReadsBack ↔
        ∀ atom ∈ m.atoms, '"' ∉ (Atom.unquoted atom).toList) ∧
      (f.ReadsBack → ls = f.stated) := by
  obtain ⟨-, hline⟩ := addMatch_eq_addLine_iff.mp hadd
  obtain ⟨-, hname, -⟩ := LineFilter.ofAtoms_eq_ok.mp hline
  have hkey : Consists Recovered.isNameChar f.key :=
    hname ▸ hm.key_chars.mono fun _ => isNameChar_of_isKeyRest
  have hatoms : ∀ atom ∈ m.atoms, Consists Filter.isValueChar atom := fun _ => hm.atom_chars
  have hne := LineFilter.values_ne_nil_of_ofAtoms m.atoms_ne_nil hline
  have hback := LineFilter.readsBack_ofAtoms hkey hatoms hline hne hls
  have hstated := fun hquotes =>
    LineFilter.eq_stated_of_toLabels? hkey hatoms hline hne hquotes hls
  refine ⟨?_, fun h => hstated (hback.mp h)⟩
  constructor
  · exact fun h => hback.mp h.2
  · intro hquotes
    refine ⟨?_, hback.mpr hquotes⟩
    rw [hstated hquotes]
    exact fun l => LineFilter.key_of_mem_stated

/-- The line filter of two texts, one of them between quotes, which are excluded. -/
def twoNames : LineFilter :=
  { key := "SrcK8S_Name", strict := false, negated := true
    values := [⟨.contains, "a"⟩, ⟨.text, "b"⟩] }

/-- Two texts without quotes inside. -/
theorem readsBack_iff_twoNames :
    ∃ m : Filter.Match, m.Admitted ∧
      (ofOptions namespaceCatalog {}).addMatch m =
        .ok ((ofOptions namespaceCatalog {}).addLine twoNames) ∧
      twoNames.toLabels? = some [.regex "SrcK8S_Name" "((?i)[^\"]*a.*)|(b)" true] ∧
      twoNames.ReadsBack := by
  have hm : Filter.Match.Admitted { key := "SrcK8S_Name", values := "a,\"b\"", negated := true } :=
    ⟨by decide +kernel, by decide +kernel⟩
  have hadd : (ofOptions namespaceCatalog {}).addMatch
      { key := "SrcK8S_Name", values := "a,\"b\"", negated := true } =
        .ok ((ofOptions namespaceCatalog {}).addLine twoNames) :=
    addMatch_eq_addLine_iff.mpr ⟨by decide +kernel, by decide +kernel⟩
  have hls : twoNames.toLabels? = some [.regex "SrcK8S_Name" "((?i)[^\"]*a.*)|(b)" true] := by
    decide +kernel
  exact ⟨_, hm, hadd, hls, ((readsBack_iff hm hadd hls).1.mpr (by decide +kernel)).2⟩

/-- The line filter of a text with a quote, a colon and a quote inside. -/
def nestedName : LineFilter :=
  { key := "SrcK8S_Name", strict := false, values := [⟨.contains, "a\":\"b"⟩] }

/-- A text with a quote, a colon and a quote inside is read back as a value of another field. -/
theorem readsBack_nested :
    ∃ m : Filter.Match, Filter.Expression.parse "SrcK8S_Name=a\":\"b" = .ok [[m]] ∧
      (ofOptions namespaceCatalog {}).addMatch m =
        .ok ((ofOptions namespaceCatalog {}).addLine nestedName) ∧
      nestedName.toLabels? = some [.regex "a" "b.*" false] ∧ ¬nestedName.ReadsBack := by
  have hread : Recovered.first? (nestedName.fragment ⟨.contains, "a\":\"b"⟩).toList =
      some ⟨"a", "b.*", false⟩ := by
    decide +kernel
  refine ⟨{ key := "SrcK8S_Name", values := "a\":\"b" }, by decide +kernel,
    addMatch_eq_addLine_iff.mpr ⟨by decide +kernel, by decide +kernel⟩, by decide +kernel, ?_⟩
  intro hback
  rcases hback _ List.mem_cons_self with hform | ⟨r, hr, hvalue⟩
  · cases hform
  · rw [hread] at hr
    cases hr
    exact absurd hvalue (by decide +kernel)

end FlowQuery

end FlowConsole.LogQL
