import FlowConsole.Proofs.Record.Places

/-!
# Names on the line of a record

Where a name is looked for on the line of a record, by its end, its closing quote and the colon,
only fields are found, since names are made of word characters and records hold no other texts that
a quote and a colon follow (`FlowRecord.exists_named_iff`). What follows is the value of the field
(`FlowRecord.exists_number_iff`).
-/

open FlowConsole.Text (Consists)

namespace FlowConsole

variable {w : Escaping}

/-- A word character differs from one that is none. -/
theorem ne_of_isWord {c d : Char} (hc : Text.isWord c = true) (hd : Text.isWord d = false) :
    c ≠ d := by
  rintro rfl
  rw [hc] at hd
  cases hd

/-- Word characters are no signs that end a name or could stand before its quote. -/
theorem ne_signs_of_consists {key : String} (hkey : Consists Text.isWord key) :
    ∀ c ∈ key.toList, c ≠ '"' ∧ c ∉ openingSigns := by
  intro c hc
  have hword : ∀ d, Text.isWord d = false → c ≠ d := fun d => ne_of_isWord (hkey c hc)
  simp [openingSigns, hword, Text.isAsciiWord]

/-- Word characters are no quotes. -/
theorem quote_not_mem_of_consists {key : String} (hkey : Consists Text.isWord key) :
    '"' ∉ key.toList := fun hmem => (ne_signs_of_consists hkey _ hmem).1 rfl

/-- The name of a field has no quotes. -/
theorem RecordField.quote_not_mem_name (f : RecordField) : '"' ∉ f.name.toList :=
  quote_not_mem_of_consists f.word

/-- After a value comes a comma or the closing brace. -/
theorem FlowRecord.closing_eq (w : Escaping) (r : FlowRecord) :
    ∃ c cs, closing w r = c :: cs ∧ (c = ',' ∨ c = '\x7d') := by
  cases r with
  | nil => exact ⟨_, _, rfl, .inr rfl⟩
  | cons f r => exact ⟨_, _, rfl, .inl rfl⟩

/-- The name of the field is the key, or ends with it. -/
def RecordField.IsNamed (strict : Bool) (key : String) (f : RecordField) : Prop :=
  if strict then f.name = key else key.toList <:+ f.name.toList

instance (strict : Bool) (key : String) (f : RecordField) : Decidable (f.IsNamed strict key) :=
  inferInstanceAs (Decidable (if strict then f.name = key else key.toList <:+ f.name.toList))

/-- A key without quotes names a field exactly if it is found where the name of the field ends, from
the opening quote or not. -/
theorem RecordField.isNamed_iff_suffix {f : RecordField} {strict : Bool} {key : String}
    (hkey : '"' ∉ key.toList) :
    f.IsNamed strict key ↔
      (if strict then ['"'] else []) ++ key.toList <:+ '"' :: f.name.toList := by
  rw [WrittenField.suffix_quote_cons_iff hkey f.quote_not_mem_name, String.toList_inj]
  exact Iff.rfl

/-- What stands before a comma or a closing brace, where a value is written, is the value, if it is
made of the characters of numbers. -/
theorem RecordValue.number_of_append_eq {v : RecordValue} {r : FlowRecord} {ds after : List Char}
    {d : Char} (hds : ∀ c ∈ ds, isNumeralChar c = true) (hne : ds ≠ [])
    (hd : d = ',' ∨ d = '\x7d') (h : ds ++ d :: after = v.written w ++ r.closing w) :
    ∃ n, v = .number n ∧ n.text.toList = ds := by
  have hend : ∀ c : Char, c = ',' ∨ c = '\x7d' → isNumeralChar c = false := by
    rintro c (rfl | rfl) <;> decide
  have hfirst : ∀ c ∈ (v.written w ++ r.closing w).head?, isNumeralChar c = true := by
    obtain ⟨c, cs, rfl⟩ := List.exists_cons_of_ne_nil hne
    rw [← h]
    simpa using hds c List.mem_cons_self
  obtain ⟨c, cs, hclosing, hc⟩ := r.closing_eq w
  cases v with
  | number n =>
    refine ⟨n, rfl, ?_⟩
    have htake := congrArg (List.takeWhile isNumeralChar) h
    rw [hclosing, written, List.takeWhile_append_of_pos hds,
      List.takeWhile_append_of_pos n.chars, List.takeWhile_cons_of_neg (by simp [hend d hd]),
      List.takeWhile_cons_of_neg (by simp [hend c hc])] at htake
    simpa using htake.symm
  | text s =>
    have hquote : isNumeralChar '"' = true := hfirst '"' (by simp [written])
    cases hquote
  | flag b =>
    cases b with
    | false =>
      have hletter : isNumeralChar 'f' = true := hfirst 'f' (by simp [written])
      cases hletter
    | true =>
      have hletter : isNumeralChar 't' = true := hfirst 't' (by simp [written])
      cases hletter
  | nothing =>
    have hletter : isNumeralChar 'n' = true := hfirst 'n' (by simp [written])
    cases hletter

/-! ### Records -/

/-- The field as it stands on the line. -/
def RecordField.onLine (f : RecordField) : WrittenField where
  name := f.name.toList
  escaped := isEscaped_of_not_mem f.quote_not_mem_name fun hmem =>
    ne_of_isWord (f.word _ hmem) (d := '\\') (by simp [Text.isAsciiWord]) rfl
  value := f.value

namespace FlowRecord

/-- What follows a value is what follows it on the line of fields. -/
theorem closing_onLine (w : Escaping) (r : FlowRecord) :
    closing w r = WrittenField.closing w (r.map RecordField.onLine) := by
  induction r with
  | nil => rfl
  | cons f r ih =>
    rw [closing, ih]
    rfl

/-- The line of a record is the line of its fields. -/
theorem toList_line (w : Escaping) (r : FlowRecord) :
    (line w r).toList = WrittenField.line w (r.map RecordField.onLine) := by
  rw [line, String.toList_ofList, WrittenField.line, List.map_map]
  rfl

/-- Where a name, a quote and a colon stand on a line, the value of a field that is named so
follows. -/
theorem exists_named_of_line {r : FlowRecord} {name : String} {strict : Bool}
    {before after : List Char} (hname : ∀ c ∈ name.toList, c ≠ '"' ∧ c ∉ openingSigns)
    (hne : strict = true ∨ name ≠ "")
    (h : (r.line w).toList =
      before ++ ((if strict then ['"'] else []) ++ name.toList) ++ '"' :: ':' :: after) :
    ∃ f ∈ r, f.IsNamed strict name ∧ ∃ rest, after = f.value.written w ++ closing w rest := by
  rw [toList_line] at h
  obtain ⟨pre, p, post, hps, hsuffix, hvalue⟩ := WrittenField.exists_split_of_key hname
    (hne.imp_right fun hne hnil => hne (String.toList_eq_nil_iff.mp hnil)) h
  obtain ⟨r₁, r₂, rfl, rfl, hr₂⟩ := List.map_eq_append_iff.mp hps
  obtain ⟨f, rest, rfl, rfl, rfl⟩ := List.map_eq_cons_iff.mp hr₂
  refine ⟨f, by simp, ?_, rest, ?_⟩
  · exact (RecordField.isNamed_iff_suffix fun hmem => (hname _ hmem).1 rfl).mpr hsuffix
  · rw [closing_onLine]
    exact hvalue

/-- The value of a field stands on the line after each key that names the field. -/
theorem exists_line_of_named (w : Escaping) {r : FlowRecord} {f : RecordField} {key : String}
    {strict : Bool} (hkey : '"' ∉ key.toList) (hf : f ∈ r) (hnamed : f.IsNamed strict key) :
    ∃ before rest, (r.line w).toList =
      before ++ ((if strict then ['"'] else []) ++ key.toList) ++
        '"' :: ':' :: (f.value.written w ++ closing w rest) := by
  obtain ⟨pre, rest, rfl⟩ := List.append_of_mem hf
  obtain ⟨before, hline⟩ := WrittenField.exists_line_of_suffix w (pre.map RecordField.onLine)
    (rest.map RecordField.onLine) (p := f.onLine)
    ((RecordField.isNamed_iff_suffix hkey).mp hnamed)
  refine ⟨before, rest, ?_⟩
  rw [toList_line, List.map_append, List.map_cons, hline, closing_onLine]
  rfl

/-- A key, a quote and a colon stand on the line of a record exactly if the record has a field that
the key names. -/
theorem exists_named_iff (w : Escaping) (r : FlowRecord) {key : String} {strict : Bool}
    (hkey : Consists Text.isWord key) (hstrict : strict = true ∨ key ≠ "") :
    (∃ before after, (r.line w).toList =
      before ++ ((if strict then ['"'] else []) ++ key.toList) ++ '"' :: ':' :: after) ↔
      ∃ f ∈ r, f.IsNamed strict key := by
  constructor
  · rintro ⟨before, after, hline⟩
    obtain ⟨f, hf, hnamed, -⟩ := exists_named_of_line (ne_signs_of_consists hkey) hstrict hline
    exact ⟨f, hf, hnamed⟩
  · rintro ⟨f, hf, hnamed⟩
    obtain ⟨before, rest, hline⟩ :=
      exists_line_of_named w (quote_not_mem_of_consists hkey) hf hnamed
    exact ⟨before, _, hline⟩

/-- The characters of a number stand after a key, a quote and a colon and before a comma or the
closing brace exactly if they are the number of a field that the key names. -/
theorem exists_number_iff (w : Escaping) (r : FlowRecord) {key : String} {strict : Bool}
    (hkey : Consists Text.isWord key) (hstrict : strict = true ∨ key ≠ "") {ds : List Char}
    (hds : ∀ c ∈ ds, isNumeralChar c = true) (hne : ds ≠ []) :
    (∃ before c after, (c = ',' ∨ c = '\x7d') ∧ (r.line w).toList =
      before ++ ((if strict then ['"'] else []) ++ key.toList) ++
        '"' :: ':' :: (ds ++ c :: after)) ↔
      ∃ f ∈ r, f.IsNamed strict key ∧ ∃ n, f.value = .number n ∧ n.text.toList = ds := by
  constructor
  · rintro ⟨before, c, after, hc, hline⟩
    obtain ⟨f, hf, hnamed, rest, hvalue⟩ :=
      exists_named_of_line (ne_signs_of_consists hkey) hstrict hline
    obtain ⟨n, hn, htext⟩ := RecordValue.number_of_append_eq hds hne hc hvalue
    exact ⟨f, hf, hnamed, n, hn, htext⟩
  · rintro ⟨f, hf, hnamed, n, hn, rfl⟩
    obtain ⟨before, rest, hline⟩ :=
      exists_line_of_named w (quote_not_mem_of_consists hkey) hf hnamed
    obtain ⟨c, cs, hclosing, hc⟩ := closing_eq w rest
    refine ⟨before, c, cs, hc, ?_⟩
    rw [hline, hn, hclosing]
    rfl

end FlowRecord

end FlowConsole
