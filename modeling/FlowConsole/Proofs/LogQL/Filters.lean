import FlowConsole.Proofs.LogQL.Patterns
import FlowConsole.Proofs.LogQL.Rendering

/-!
# Regular filters

A label filter is regular if its name is made of the characters of names and its value of characters
that can be written in its form; a line filter, if its name is and its values can stand between
backticks. The tokens of regular filters are regular. Filters made from the atoms of admitted
matches are regular, and so are the label filters that stand for regular line filters.
-/

open FlowConsole.Text (Consists)

namespace FlowConsole.LogQL

open Token (isBareChar isCodeChar isLiteralChar)

/-! ### Label filters -/

/-- A character that can be written in a value of the form. -/
def LabelForm.isChar : LabelForm → Char → Bool
  | .number => isNumberChar
  | .text | .regex => isLiteralChar
  | .address => isBareChar

namespace LabelFilter

/-- The name and the value are made of characters that can be written there. -/
structure Regular (f : LabelFilter) : Prop where
  key : Consists Recovered.isNameChar f.key
  value : Consists f.form.isChar f.value

/-- The filter compares with an address that holds a quote. -/
def Broken (f : LabelFilter) : Prop := f.form = .address ∧ '"' ∈ f.value.toList

private theorem code_sign (o : Operator) : Consists isCodeChar o.sign := by
  cases o <;> decide

/-- The tokens of a regular label filter are regular. -/
theorem Regular.tokens {f : LabelFilter} (h : f.Regular) : ∀ t ∈ f.tokens, t.Regular := by
  obtain ⟨key, operator, value, form⟩ := f
  have hcode : (Token.code (key ++ operator.sign)).Regular :=
    Text.consists_append.mpr ⟨h.key.mono fun _ => isCodeChar_of_isNameChar, code_sign operator⟩
  have hvalue := h.value
  intro t ht
  rcases List.mem_cons.mp ht with rfl | ht
  · exact hcode
  · cases form with
    | number =>
      rw [List.mem_singleton.mp ht]
      exact hvalue.mono fun _ => isCodeChar_of_isNumberChar
    | text | regex =>
      rw [List.mem_singleton.mp ht]
      exact hvalue
    | address =>
      rcases List.mem_cons.mp ht with rfl | ht
      · exact (by decide : Consists isCodeChar "ip(")
      rcases List.mem_cons.mp ht with rfl | ht
      · exact hvalue
      · rw [List.mem_singleton.mp ht]
        exact (by decide : Consists isCodeChar ")")

/-- A token of a label filter is broken exactly if the filter is. -/
theorem exists_broken_tokens (f : LabelFilter) : (∃ t ∈ f.tokens, t.Broken) ↔ f.Broken := by
  obtain ⟨key, operator, value, form⟩ := f
  cases form <;> simp [tokens, Token.Broken, Broken]

variable {key : String}

/-- A filter of any form but that of addresses is not broken. -/
theorem regular_of_form {f : LabelFilter} (hk : Consists Recovered.isNameChar f.key)
    (hv : Consists f.form.isChar f.value) (hf : f.form ≠ .address) : f.Regular ∧ ¬f.Broken :=
  ⟨⟨hk, hv⟩, fun hb => hf hb.1⟩

/-- A comparison with a text is regular and compares with no address. -/
theorem regular_text (hk : Consists Recovered.isNameChar key) {value : String}
    (hv : Consists isLiteralChar value) (negated : Bool) :
    (text key value negated).Regular ∧ ¬(text key value negated).Broken :=
  regular_of_form hk hv nofun

/-- A comparison with a regular expression is regular and compares with no address. -/
theorem regular_regex (hk : Consists Recovered.isNameChar key) {value : String}
    (hv : Consists isLiteralChar value) (negated : Bool) :
    (regex key value negated).Regular ∧ ¬(regex key value negated).Broken :=
  regular_of_form hk hv nofun

/-- A comparison with a number is regular and compares with no address. -/
theorem regular_number (hk : Consists Recovered.isNameChar key) {value : String}
    (hv : Consists isNumberChar value) (negated : Bool) :
    (number key value negated).Regular ∧ ¬(number key value negated).Broken :=
  regular_of_form hk hv nofun

/-- A lower bound is regular and compares with no address. -/
theorem regular_atLeast (hk : Consists Recovered.isNameChar key) {value : String}
    {f : LabelFilter} (h : atLeast key value = .ok f) : f.Regular ∧ ¬f.Broken := by
  rw [atLeast] at h
  split_ifs at h with hn
  cases h
  exact regular_of_form hk (number_of_isNumber hn) nofun

/-- A filter of atoms is regular and compares with no address. -/
theorem regular_anyOf (hk : Consists Recovered.isNameChar key) {atoms : List String}
    (ha : ∀ atom ∈ atoms, Consists isLiteralChar atom) (negated : Bool) :
    (anyOf key atoms negated).Regular ∧ ¬(anyOf key atoms negated).Broken := by
  refine regular_of_form hk ?_ nofun
  apply Text.consists_join (by decide : Consists isLiteralChar "|")
  intro s hs
  obtain ⟨atom, hatom, rfl⟩ := List.mem_map.mp hs
  exact literal_alternative (ha atom hatom)

/-- The filter of the atoms of a match is regular and compares with no address. -/
theorem regular_ofAtoms (hk : Consists Recovered.isNameChar key) {atoms : List String}
    (ha : ∀ atom ∈ atoms, Consists isLiteralChar atom) (negated : Bool) :
    (ofAtoms key atoms negated).Regular ∧ ¬(ofAtoms key atoms negated).Broken := by
  unfold ofAtoms
  split
  · next atom =>
    split
    · apply regular_text hk
      cases hi : Atom.unquoted? atom with
      | none => exact (by decide : Consists isLiteralChar "")
      | some inner => exact consists_of_unquoted? (ha atom List.mem_cons_self) hi
    · exact regular_anyOf hk ha negated
  · exact regular_anyOf hk ha negated

end LabelFilter

/-! ### Line filters -/

namespace LineFilter

/-- The name is made of the characters of names, and the values can stand between backticks. -/
structure Regular (f : LineFilter) : Prop where
  key : Consists Recovered.isNameChar f.key
  values : ∀ v ∈ f.values, Consists isLiteralChar v.text

private theorem literal_valuePattern {v : LineValue} (h : Consists isLiteralChar v.text) :
    Consists isLiteralChar v.pattern := by
  obtain ⟨form, text⟩ := v
  cases form with
  | number | flag | regex => exact h
  | atLeast => exact Text.consists_ofList.mpr (literal_patternOf h)
  | text | contains | arrayContains =>
    exact Text.consists_append.mpr ⟨Text.consists_append.mpr ⟨by decide, h⟩, by decide⟩

private theorem literal_boundary (v : LineValue) : Consists isLiteralChar v.boundary := by
  rw [LineValue.boundary]
  split <;> decide

variable {f : LineFilter}

/-- The pattern of the name can stand between backticks. -/
theorem Regular.keyPattern (h : f.Regular) : Consists isLiteralChar f.keyPattern := by
  rw [LineFilter.keyPattern, Text.consists_append, Text.consists_append]
  refine ⟨⟨?_, h.key.mono fun _ => isLiteralChar_of_isNameChar⟩, by decide⟩
  split <;> decide

/-- The pattern of a value can stand between backticks. -/
theorem Regular.fragment (h : f.Regular) {v : LineValue} (hv : v ∈ f.values) :
    Consists isLiteralChar (f.fragment v) :=
  Text.consists_append.mpr ⟨h.keyPattern, literal_valuePattern (h.values v hv)⟩

/-- The body can stand between backticks. -/
theorem Regular.body (h : f.Regular) : Consists isLiteralChar f.body := by
  rw [LineFilter.body]
  split
  · exact h.keyPattern
  · apply Text.consists_join (by decide)
    intro s hs
    obtain ⟨v, hv, rfl⟩ := List.mem_map.mp hs
    exact Text.consists_append.mpr ⟨h.fragment hv, literal_boundary v⟩

/-- A token of a stage is its operator or its body. -/
theorem mem_stageTokens {operator body : String} {t : Token}
    (h : t ∈ stageTokens operator body) : t = .code operator ∨ t = .raw body := by
  rw [stageTokens, List.mem_cons, List.mem_singleton] at h
  exact h

/-- A token of a line filter is one of two operators or one of its bodies. -/
theorem mem_tokens {t : Token} (h : t ∈ f.tokens) :
    t = .code "|~" ∨ t = .code "!~" ∨ t = .raw f.keyPattern ∨ t = .raw f.body := by
  rw [tokens] at h
  split at h
  · rcases List.mem_append.mp h with h | h
    · split at h
      · rcases mem_stageTokens h with rfl | rfl <;> simp
      · exact absurd h List.not_mem_nil
    · rcases mem_stageTokens h with rfl | rfl <;> simp
  · rcases mem_stageTokens h with rfl | rfl <;> simp

/-- The tokens of a regular line filter are regular. -/
theorem Regular.tokens (h : f.Regular) : ∀ t ∈ f.tokens, t.Regular := by
  intro t ht
  rcases mem_tokens ht with rfl | rfl | rfl | rfl
  · exact (by decide : Consists isCodeChar "|~")
  · exact (by decide : Consists isCodeChar "!~")
  · exact h.keyPattern
  · exact h.body

/-- No token of a line filter is broken. -/
theorem not_broken_tokens (f : LineFilter) : ∀ t ∈ f.tokens, ¬t.Broken := by
  intro t ht
  rcases mem_tokens ht with rfl | rfl | rfl | rfl <;> exact id

private theorem literal_ofAtom {key atom : String} {kind : LineKind} {atLeast : Bool}
    {v : LineValue} (ha : Consists isLiteralChar atom)
    (h : LineValue.ofAtom key kind atLeast atom = .ok v) : Consists isLiteralChar v.text := by
  have hu := consists_unquoted ha
  rw [LineValue.ofAtom.eq_def] at h
  cases kind with
  | numeric =>
    dsimp only at h
    split_ifs at h <;> cases h
    · exact hu
    · exact literal_pattern hu
  | array =>
    dsimp only at h
    split_ifs at h
    cases h
    exact literal_pattern hu
  | text =>
    dsimp only at h
    split_ifs at h
    split at h
    · next inner hi =>
      cases h
      exact literal_pattern (consists_of_unquoted? ha hi)
    · cases h
      exact literal_pattern ha

/-- The filter of the atoms of a match is regular. -/
theorem regular_ofAtoms {key : String} (hk : Consists Recovered.isNameChar key)
    {atoms : List String} (ha : ∀ atom ∈ atoms, Consists isLiteralChar atom) {kind : LineKind}
    {strict negated atLeast : Bool}
    (h : ofAtoms key atoms kind strict negated atLeast = .ok f) : f.Regular := by
  obtain ⟨values, hvalues, h⟩ := Outcome.bind_eq_ok.mp h
  cases h
  refine ⟨hk, ?_⟩
  intro v hv
  obtain ⟨atom, hatom, hv⟩ := Outcome.exists_of_mem_mapM hvalues hv
  exact literal_ofAtom (ha atom hatom) hv

end LineFilter

/-! ### Recovered values -/

namespace Recovered

/-- The value of a quoted text is made of its characters. -/
theorem mem_of_quotedValue? {cs value : List Char} (h : quotedValue? cs = some value) :
    ∀ c ∈ value, c ∈ cs := by
  induction cs using quotedValue?.induct generalizing value with
  | case1 =>
    cases h
    exact fun c hc => hc
  | case2 cs ih =>
    obtain ⟨v, hv, rfl⟩ := Option.map_eq_some_iff.mp h
    intro c hc
    rw [List.mem_cons, List.mem_cons] at hc ⊢
    exact hc.imp_right (Or.imp_right (ih hv c))
  | case3 =>
    cases h
    exact fun c hc => absurd hc List.not_mem_nil
  | case4 cs hcs hend =>
    rw [quotedValue?.eq_4 _ _ hcs hend, if_pos rfl] at h
    cases h
  | case5 c cs hcs hend hc ih =>
    rw [quotedValue?.eq_4 _ _ hcs hend, if_neg hc] at h
    obtain ⟨v, hv, rfl⟩ := Option.map_eq_some_iff.mp h
    intro d hd
    rw [List.mem_cons] at hd ⊢
    exact hd.imp_right (ih hv d)

/-- A name and a value found in a text: the name is one, and the value is made of the characters of
the text; of digits, if it is a number. -/
structure FoundIn (r : Recovered) (cs : List Char) : Prop where
  name : Consists isNameChar r.name
  value : ∀ c ∈ r.value.toList, c ∈ cs
  number : r.isNumber = true → Consists Text.isAnyDigit r.value

private theorem foundIn_of_ofValue? {name cs : List Char} {r : Recovered}
    (hn : ∀ c ∈ name, isNameChar c = true) (h : ofValue? name cs = some r) : r.FoundIn cs := by
  unfold ofValue? at h
  split at h
  · next cs =>
    obtain ⟨v, hv, rfl⟩ := Option.map_eq_some_iff.mp h
    refine ⟨Text.consists_ofList.mpr hn, ?_, ?_⟩
    · intro c hc
      rw [String.toList_ofList] at hc
      exact List.mem_cons_of_mem _ (mem_of_quotedValue? hv c hc)
    · intro hnum
      cases hnum
  · split_ifs at h with hd
    cases h
    rw [Bool.and_eq_true] at hd
    refine ⟨Text.consists_ofList.mpr hn, ?_, ?_⟩
    · intro c hc
      rw [String.toList_ofList] at hc
      exact hc
    · intro _
      exact Text.consists_ofList.mpr (List.all_eq_true.mp hd.2)

/-- What is found in a text is found at one of its places. -/
theorem foundIn_of_first? {cs : List Char} {r : Recovered} (h : first? cs = some r) :
    r.FoundIn cs := by
  induction cs with
  | nil => cases h
  | cons c cs ih =>
    rw [first?, Option.or_eq_some_iff] at h
    rcases h with h | ⟨-, h⟩
    · rw [atStart?] at h
      -- the value is found in what follows the name, a quote and a colon
      split at h
      · next rest hrest =>
        have hn : ∀ d ∈ (c :: cs).takeWhile isNameChar, isNameChar d = true :=
          List.all_eq_true.mp List.all_takeWhile
        have hf := foundIn_of_ofValue? hn h
        have hsub : ∀ d ∈ rest, d ∈ c :: cs := by
          intro d hd
          apply (List.dropWhile_sublist isNameChar).subset
          rw [hrest]
          exact List.mem_cons_of_mem _ (List.mem_cons_of_mem _ hd)
        exact ⟨hf.name, fun d hd => hsub d (hf.value d hd), hf.number⟩
      · cases h
    · have hf := ih h
      exact ⟨hf.name, fun d hd => List.mem_cons_of_mem _ (hf.value d hd), hf.number⟩

-- The value of what is found in a text that can stand in literals.
private theorem FoundIn.literal {r : Recovered} {s : String} (h : r.FoundIn s.toList)
    (hs : Consists isLiteralChar s) : Consists isLiteralChar r.value :=
  fun c hc => hs c (h.value c hc)

private theorem regular_toLabel {r : Recovered} {s : String} (h : r.FoundIn s.toList)
    (hs : Consists isLiteralChar s) (negated : Bool) :
    (r.toLabel negated).Regular ∧ ¬(r.toLabel negated).Broken := by
  rw [toLabel]
  split
  · next hn =>
    have hv : Consists isNumberChar r.value := (h.number hn).mono fun c hc => by
      rw [isNumberChar, hc]
      rfl
    exact LabelFilter.regular_number h.name hv negated
  · exact LabelFilter.regular_regex h.name (h.literal hs) negated

/-- The label filters of values that were found in texts that can stand in literals. -/
theorem regular_toLabels {rs : List Recovered}
    (h : ∀ r ∈ rs, ∃ s : String, r.FoundIn s.toList ∧ Consists isLiteralChar s) (negated : Bool) :
    ∀ f ∈ toLabels negated rs, f.Regular ∧ ¬f.Broken := by
  have hone : ∀ r ∈ rs, ∀ n, (r.toLabel n).Regular ∧ ¬(r.toLabel n).Broken := by
    intro r hr n
    obtain ⟨s, hf, hs⟩ := h r hr
    exact regular_toLabel hf hs n
  intro f hf
  unfold toLabels at hf
  split at hf
  · exact absurd hf List.not_mem_nil
  · next r =>
    rw [List.mem_singleton.mp hf]
    exact hone r List.mem_cons_self negated
  · next r rs _ =>
    split at hf
    · rw [List.mem_singleton.mp hf]
      obtain ⟨s, hr, -⟩ := h r List.mem_cons_self
      apply LabelFilter.regular_regex hr.name
      apply Text.consists_join (by decide)
      intro t ht
      obtain ⟨u, hu, rfl⟩ := List.mem_map.mp ht
      obtain ⟨s, hfound, hs⟩ := h u hu
      exact Text.consists_append.mpr
        ⟨Text.consists_append.mpr ⟨by decide, hfound.literal hs⟩, by decide⟩
    · obtain ⟨u, hu, rfl⟩ := List.mem_map.mp hf
      exact hone u hu false

end Recovered

/-- The label filters that stand for a regular line filter are regular and compare with no address.
-/
theorem LineFilter.regular_toLabels? {f : LineFilter} (hf : f.Regular) {ls : List LabelFilter}
    (h : f.toLabels? = some ls) : ∀ l ∈ ls, l.Regular ∧ ¬l.Broken := by
  rw [toLabels?] at h
  split_ifs at h
  · cases h
    intro l hl
    rw [List.mem_singleton.mp hl]
    exact LabelFilter.regular_text hf.key (by decide) _
  · intro l hl
    obtain ⟨v, -, hv⟩ := Outcome.exists_of_mem_mapM_some h hl
    cases hb : LabelFilter.atLeast f.key v.text with
    | ok g =>
      rw [hb] at hv
      cases hv
      exact LabelFilter.regular_atLeast hf.key hb
    | error e =>
      rw [hb] at hv
      cases hv
  · obtain ⟨rs, hrs, rfl⟩ := Option.map_eq_some_iff.mp h
    apply Recovered.regular_toLabels
    intro r hr
    obtain ⟨v, hv, hfirst⟩ := Outcome.exists_of_mem_mapM_some hrs hr
    exact ⟨f.fragment v, Recovered.foundIn_of_first? hfirst, hf.fragment hv⟩

end FlowConsole.LogQL
