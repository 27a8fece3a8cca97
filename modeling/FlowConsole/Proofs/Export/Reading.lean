import FlowConsole.Export.Csv
import Mathlib.Tactic.SplitIfs

/-!
# Reading tables

A reader of comma separated values: a record ends with a line feed, its fields stand between commas,
and a field between quotes may hold any character, its own quotes doubled. A quote inside a field
that does not start with one, or text after the closing quote, is refused. What is read are exactly
the tables that the text spells (`read_eq_some_iff`): what has been read so far spells the text so
far, one character at a time, and every spelling of a table is read as the table.
-/

namespace FlowConsole.Export

/-! ### The reader -/

/-- What the reader is in the middle of, with the characters of the field so far. -/
inductive ReadMode
  | bare (read : List Char)
  /-- Between quotes. -/
  | quoted (read : List Char)
  /-- After a quote that ends the field, unless another one follows. -/
  | closed (read : List Char)
  deriving DecidableEq, Repr

/-- What the reader has read. -/
structure Reader where
  records : List (List String) := []
  /-- The fields of the current record before the current one. -/
  fields : List String := []
  mode : ReadMode := .bare []
  deriving DecidableEq, Repr

namespace Reader

/-- Ends a field. -/
def endField (s : Reader) (field : String) : Reader :=
  { s with fields := s.fields ++ [field], mode := .bare [] }

/-- Ends a record. -/
def endRecord (s : Reader) (field : String) : Reader :=
  { records := s.records ++ [s.fields ++ [field]] }

/-- Reads a character. -/
def step (s : Reader) (c : Char) : Option Reader :=
  match s.mode with
  | .bare read =>
    if c = ',' then some (s.endField (.ofList read))
    else if c = '\n' then some (s.endRecord (.ofList read))
    else if c = '"' then if read = [] then some { s with mode := .quoted [] } else none
    else some { s with mode := .bare (read ++ [c]) }
  | .quoted read =>
    if c = '"' then some { s with mode := .closed read }
    else some { s with mode := .quoted (read ++ [c]) }
  | .closed read =>
    if c = ',' then some (s.endField (.ofList read))
    else if c = '\n' then some (s.endRecord (.ofList read))
    else if c = '"' then some { s with mode := .quoted (read ++ ['"']) }
    else none

/-- Reads characters in order. -/
def run (s : Reader) (cs : List Char) : Option Reader := cs.foldlM step s

/-- The records, if the last one has ended. -/
def finish (s : Reader) : Option (List (List String)) :=
  if s.fields = [] ∧ s.mode = .bare [] then some s.records else none

/-- Nothing is read from no text. -/
theorem run_nil (s : Reader) : s.run [] = some s := rfl

/-- A character is read, and then the rest. -/
theorem run_cons (s : Reader) (c : Char) (cs : List Char) :
    s.run (c :: cs) = (s.step c).bind fun t => t.run cs := List.foldlM_cons

/-- Where a first part is read, the rest is read from there. -/
theorem run_of_append {s t : Reader} {cs : List Char} (h : s.run cs = some t) (ds : List Char) :
    s.run (cs ++ ds) = t.run ds := by
  have happend : s.run (cs ++ ds) = (s.run cs).bind fun t => t.run ds := List.foldlM_append
  rw [happend, h, Option.bind_some]

end Reader

/-- The records of a table. -/
def read (text : String) : Option (List (List String)) :=
  (Reader.run {} text.toList).bind Reader.finish

/-! ### Spellings -/

/-- The text is a field without quotes. -/
def IsPlain (cs : List Char) : Prop := ∀ c ∈ cs, c ≠ ',' ∧ c ≠ '\n' ∧ c ≠ '"'

/-- The characters with their quotes doubled. -/
def doubled (cs : List Char) : List Char := cs.flatMap fun c => if c = '"' then ['"', '"'] else [c]

/-- The text spells a field: as it is, or between quotes. -/
inductive SpellsField (field : String) : List Char → Prop
  | bare : IsPlain field.toList → SpellsField field field.toList
  | quoted : SpellsField field ('"' :: doubled field.toList ++ ['"'])

/-- The text spells a record, which has a field. -/
inductive SpellsRecord : List String → List Char → Prop
  | last {field : String} {cs : List Char} :
    SpellsField field cs → SpellsRecord [field] (cs ++ ['\n'])
  | more {field : String} {fields : List String} {cs ds : List Char} :
    SpellsField field cs → SpellsRecord fields ds → SpellsRecord (field :: fields) (cs ++ ',' :: ds)

/-- The text spells a table. -/
inductive Spells : List (List String) → List Char → Prop
  | empty : Spells [] []
  | more {fields : List String} {records : List (List String)} {cs ds : List Char} :
    SpellsRecord fields cs → Spells records ds → Spells (fields :: records) (cs ++ ds)

/-- A spelled record has a field. -/
theorem SpellsRecord.ne_nil {fields : List String} {cs : List Char} (h : SpellsRecord fields cs) :
    fields ≠ [] := by
  cases h with
  | last => exact List.cons_ne_nil _ _
  | more => exact List.cons_ne_nil _ _

/-! ### What has been read -/

/-- The text spells fields, each with a comma after it. -/
inductive SpellsFields : List String → List Char → Prop
  | none : SpellsFields [] []
  | more {fields : List String} {field : String} {cs ds : List Char} :
    SpellsFields fields cs → SpellsField field ds →
      SpellsFields (fields ++ [field]) (cs ++ ds ++ [','])

private theorem SpellsFields.eq_nil {fields : List String} {cs : List Char}
    (h : SpellsFields fields cs) (hfields : fields = []) : cs = [] := by
  cases h with
  | none => rfl
  | more => exact absurd hfields (List.append_ne_nil_of_right_ne_nil _ (List.cons_ne_nil _ _))

private theorem SpellsFields.append {fields more : List String} {cs ds : List Char}
    (h : SpellsFields fields cs) (h' : SpellsRecord more ds) :
    SpellsRecord (fields ++ more) (cs ++ ds) := by
  induction h generalizing more ds with
  | none => exact h'
  | more h hfield ih =>
    have hmore := ih (.more hfield h')
    simpa [List.append_assoc] using hmore

private theorem Spells.concat {records : List (List String)} {fields : List String}
    {cs ds : List Char} (h : Spells records cs) (h' : SpellsRecord fields ds) :
    Spells (records ++ [fields]) (cs ++ ds) := by
  induction h with
  | empty =>
    have hone := Spells.more h' .empty
    rwa [List.append_nil] at hone
  | more hfields h ih =>
    rw [List.append_assoc]
    exact .more hfields ih

/-- The characters of a field so far. -/
def ReadMode.Spells (cs : List Char) : ReadMode → Prop
  | .bare read => IsPlain read ∧ cs = read
  | .quoted read => cs = '"' :: doubled read
  | .closed read => cs = '"' :: doubled read ++ ['"']

/-- The text spells what has been read. -/
def Reader.Spells (s : Reader) (text : List Char) : Prop :=
  ∃ cs ds es, text = cs ++ ds ++ es ∧ Export.Spells s.records cs ∧ SpellsFields s.fields ds ∧
    s.mode.Spells es

private theorem isPlain_concat {cs : List Char} (h : IsPlain cs) {c : Char} (hcomma : c ≠ ',')
    (hline : c ≠ '\n') (hquote : c ≠ '"') : IsPlain (cs ++ [c]) := by
  intro d hd
  rcases List.mem_append.mp hd with hd | hd
  · exact h d hd
  · rw [List.mem_singleton.mp hd]
    exact ⟨hcomma, hline, hquote⟩

private theorem Reader.Spells.endField {s : Reader} {cs ds es : List Char} {field : String}
    (hrecords : Export.Spells s.records cs) (hfields : SpellsFields s.fields ds)
    (hfield : SpellsField field es) : (s.endField field).Spells (cs ++ ds ++ es ++ [',']) := by
  refine ⟨cs, ds ++ es ++ [','], [], by simp, hrecords, .more hfields hfield, ?_, rfl⟩
  exact List.forall_mem_nil _

private theorem Reader.Spells.endRecord {s : Reader} {cs ds es : List Char} {field : String}
    (hrecords : Export.Spells s.records cs) (hfields : SpellsFields s.fields ds)
    (hfield : SpellsField field es) : (s.endRecord field).Spells (cs ++ ds ++ es ++ ['\n']) := by
  refine ⟨cs ++ (ds ++ (es ++ ['\n'])), [], [], by simp, ?_, .none, List.forall_mem_nil _, rfl⟩
  exact hrecords.concat (hfields.append (.last hfield))

/-- One more character spells what is read with it. -/
theorem Reader.Spells.step {s t : Reader} {text : List Char} {c : Char} (h : s.Spells text)
    (hstep : s.step c = some t) : t.Spells (text ++ [c]) := by
  obtain ⟨cs, ds, es, rfl, hrecords, hfields, hmode⟩ := h
  rw [Reader.step.eq_def] at hstep
  cases hs : s.mode with
  | bare read =>
    rw [hs] at hmode hstep
    obtain ⟨hplain, rfl⟩ := hmode
    have hfield : SpellsField (.ofList es) es := by
      have hbare : SpellsField (.ofList es) (String.ofList es).toList :=
        .bare (by rwa [String.toList_ofList])
      rwa [String.toList_ofList] at hbare
    simp only at hstep
    split_ifs at hstep with hcomma hline hquote hempty
    · cases hstep
      rw [hcomma]
      exact endField hrecords hfields hfield
    · cases hstep
      rw [hline]
      exact endRecord hrecords hfields hfield
    · cases hstep
      exact ⟨cs, ds, ['"'], by rw [hempty, hquote, List.append_nil], hrecords, hfields, rfl⟩
    · cases hstep
      exact ⟨cs, ds, es ++ [c], List.append_assoc _ _ _, hrecords, hfields,
        isPlain_concat hplain hcomma hline hquote, rfl⟩
  | quoted read =>
    rw [hs] at hmode hstep
    obtain rfl : es = '"' :: doubled read := hmode
    simp only at hstep
    split_ifs at hstep with hquote
    · cases hstep
      rw [hquote]
      exact ⟨cs, ds, _, List.append_assoc _ _ _, hrecords, hfields, rfl⟩
    · cases hstep
      refine ⟨cs, ds, _, List.append_assoc _ _ _, hrecords, hfields, ?_⟩
      simp [ReadMode.Spells, doubled, hquote]
  | closed read =>
    rw [hs] at hmode hstep
    obtain rfl : es = '"' :: doubled read ++ ['"'] := hmode
    have hfield : SpellsField (.ofList read) ('"' :: doubled read ++ ['"']) := by
      have hquoted : SpellsField (.ofList read)
          ('"' :: doubled (String.ofList read).toList ++ ['"']) := .quoted
      rwa [String.toList_ofList] at hquoted
    simp only at hstep
    split_ifs at hstep with hcomma hline hquote
    · cases hstep
      rw [hcomma]
      exact endField hrecords hfields hfield
    · cases hstep
      rw [hline]
      exact endRecord hrecords hfields hfield
    · cases hstep
      refine ⟨cs, ds, _, List.append_assoc _ _ _, hrecords, hfields, ?_⟩
      simp [ReadMode.Spells, doubled, hquote]

/-- More characters spell what is read with them. -/
theorem Reader.Spells.run {s t : Reader} {text cs : List Char} (h : s.Spells text)
    (hrun : s.run cs = some t) : t.Spells (text ++ cs) := by
  induction cs generalizing s text with
  | nil =>
    cases hrun
    rwa [List.append_nil]
  | cons c cs ih =>
    rw [run_cons, Option.bind_eq_some_iff] at hrun
    obtain ⟨u, hstep, hrun⟩ := hrun
    rw [List.append_cons]
    exact ih (h.step hstep) hrun

/-! ### What is read -/

namespace Reader

private theorem run_plain {cs read : List Char} {s : Reader} (hmode : s.mode = .bare read)
    (h : IsPlain cs) : s.run cs = some { s with mode := .bare (read ++ cs) } := by
  induction cs generalizing read s with
  | nil => rw [run_nil, List.append_nil, ← hmode]
  | cons c cs ih =>
    obtain ⟨hcomma, hline, hquote⟩ := h c List.mem_cons_self
    have hstep : s.step c = some { s with mode := .bare (read ++ [c]) } := by
      rw [step, hmode]
      simp only [if_neg hcomma, if_neg hline, if_neg hquote]
    rw [run_cons, hstep, Option.bind_some, ih rfl fun d hd => h d (List.mem_cons_of_mem _ hd),
      List.append_assoc]
    rfl

private theorem run_doubled {cs read : List Char} {s : Reader} (hmode : s.mode = .quoted read) :
    s.run (doubled cs) = some { s with mode := .quoted (read ++ cs) } := by
  induction cs generalizing read s with
  | nil =>
    rw [List.append_nil, ← hmode]
    rfl
  | cons c cs ih =>
    have hchar : s.run (if c = '"' then ['"', '"'] else [c]) =
        some { s with mode := .quoted (read ++ [c]) } := by
      split
      · next hquote =>
        rw [hquote, run_cons, step, hmode]
        rfl
      · next hquote =>
        rw [run_cons, step, hmode]
        simp only [if_neg hquote, Option.bind_some, run_nil]
    rw [doubled, List.flatMap_cons, run_of_append hchar, ← doubled, ih rfl, List.append_assoc]
    rfl

/-- A spelled field ends at a comma or at the end of a line. -/
theorem run_field {field : String} {cs : List Char} (h : SpellsField field cs) {s : Reader}
    (hmode : s.mode = .bare []) :
    s.run (cs ++ [',']) = some (s.endField field) ∧
      s.run (cs ++ ['\n']) = some (s.endRecord field) := by
  cases h with
  | bare hplain =>
    have hrun := run_plain hmode hplain
    rw [run_of_append hrun, run_of_append hrun, run_cons, run_cons]
    simp only [step, List.nil_append, if_true, String.ofList_toList]
    exact ⟨rfl, rfl⟩
  | quoted =>
    have hopen : s.run ['"'] = some { s with mode := .quoted [] } := by
      rw [run_cons, step, hmode]
      rfl
    have hrun : s.run ('"' :: doubled field.toList ++ ['"']) =
        some { s with mode := .closed field.toList } := by
      rw [List.cons_append, ← List.singleton_append, run_of_append hopen,
        run_of_append (run_doubled rfl), run_cons, step]
      rfl
    rw [run_of_append hrun, run_of_append hrun, run_cons, run_cons]
    simp only [step, if_true, String.ofList_toList]
    exact ⟨rfl, rfl⟩

/-- A spelled record is read to its end. -/
theorem run_record {fields : List String} {cs : List Char} (h : SpellsRecord fields cs)
    {s : Reader} (hmode : s.mode = .bare []) :
    s.run cs = some { records := s.records ++ [s.fields ++ fields] } := by
  induction h generalizing s with
  | last hfield => exact (run_field hfield hmode).2
  | more hfield h ih =>
    rw [List.append_cons, run_of_append (run_field hfield hmode).1, ih rfl, endField,
      List.append_assoc]
    rfl

/-- A spelled table is read record by record. -/
theorem run_table {records : List (List String)} {cs : List Char} (h : Export.Spells records cs)
    {done : List (List String)} :
    run { records := done } cs = some { records := done ++ records } := by
  induction h generalizing done with
  | empty => rw [run_nil, List.append_nil]
  | more hfields h ih =>
    rw [run_of_append (run_record hfields rfl), List.nil_append, ih, List.append_assoc]
    rfl

end Reader

/-- What is read from a text are the records that it spells. -/
theorem read_eq_some_iff {text : String} {records : List (List String)} :
    read text = some records ↔ Spells records text.toList := by
  rw [read, Option.bind_eq_some_iff]
  constructor
  · rintro ⟨s, hrun, hfinish⟩
    have hstart : Reader.Spells {} [] :=
      ⟨[], [], [], rfl, .empty, .none, List.forall_mem_nil _, rfl⟩
    obtain ⟨cs, ds, es, htext, hrecords, hfields, hmode⟩ := hstart.run hrun
    rw [Reader.finish] at hfinish
    split_ifs at hfinish with hend
    cases hfinish
    rw [hend.2] at hmode
    obtain rfl : es = [] := hmode.2
    obtain rfl : ds = [] := hfields.eq_nil hend.1
    rw [List.nil_append, List.append_nil, List.append_nil] at htext
    rwa [htext]
  · intro h
    exact ⟨_, Reader.run_table h, rfl⟩

end FlowConsole.Export
