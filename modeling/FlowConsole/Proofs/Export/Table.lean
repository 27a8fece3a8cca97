import FlowConsole.Proofs.Dictionary
import FlowConsole.Proofs.Export.Reading
import Mathlib.Data.List.Sort

/-!
# Tables read back

A table is to hold the names of its columns (`Heads`) and, for every log line that is a JSON object,
the texts of its members (`records`). Cells are put between quotes where they have to be, so any
value can be read back. The names of the columns are written as they are: the table is read back
exactly if there is a column and no name holds a comma, a quote or the end of a line
(`read_csv_iff`).
-/

namespace FlowConsole.Export

open Response (Result)

/-! ### Records -/

/-- The log lines that are JSON objects, in their order: when each was logged, and its members. -/
def objects : Result → List (Int × Dictionary Json)
  | .matrix _ => []
  | .streams ss => (ss.flatMap fun s => s.items).filterMap fun e =>
    match Json.parse? (Utf8.encode e.line) with
    | some (.object members) => some (e.nanos, members)
    | _ => none

/-- The names are the columns of a table of the objects: the time and then every member, in
increasing order, or those that are asked for, with the time in front if it is among them. -/
inductive Heads (objects : List (Int × Dictionary Json)) : Option (List String) → List String → Prop
  | all {names : List String} (hordered : names.Pairwise (· < ·))
    (hmem : ∀ name, name ∈ names ↔ ∃ o ∈ objects, ∃ v, (name, v) ∈ o.2) :
    Heads objects none ("Timestamp" :: names)
  | asked {names : List String} (h : "Timestamp" ∉ names) : Heads objects (some names) names
  | moved {names : List String} (h : "Timestamp" ∈ names) :
    Heads objects (some names) ("Timestamp" :: names.filter (· ≠ "Timestamp"))

/-- The text of an object in a column: the time, a string itself, any other value as JSON, and
nothing for a null or a member that the object does not have. -/
def textIn (o : Int × Dictionary Json) (column : String) : String :=
  if column = "Timestamp" then renderTime o.1
  else match Dictionary.find? o.2 column with
    | none | some .null => ""
    | some (.string s) => s
    | some v => v.render

/-- What a table with these columns is to hold: their names, and the texts of the objects. -/
def records (result : Result) (names : List String) : List (List String) :=
  names :: (objects result).map fun o => names.map (textIn o)

/-- The row of an object. -/
def rowOf (o : Int × Dictionary Json) : Row := ⟨renderTime o.1, o.2⟩

/-- The table has a row for each object. -/
theorem rows_eq (result : Result) : rows result = (objects result).map rowOf := by
  cases result with
  | matrix => rfl
  | streams ss =>
    rw [rows, objects, List.map_filterMap]
    refine congrArg (fun f => List.filterMap f _) (funext fun e => ?_)
    rw [Row.ofEntry?]
    cases Json.parse? (Utf8.encode e.line) with
    | none => rfl
    | some v => cases v <;> rfl

private theorem header_some (rows : List Row) (columns : List String) :
    header rows (some columns) = if "Timestamp" ∈ columns then
      "Timestamp" :: columns.filter (· ≠ "Timestamp") else columns := by
  change (if columns.contains "Timestamp" then ["Timestamp"] else []) ++
    columns.filter (· ≠ "Timestamp") = _
  by_cases h : "Timestamp" ∈ columns
  · rw [if_pos (List.contains_iff_mem.mpr h), if_pos h, List.singleton_append]
  · have hsame : columns.filter (· ≠ "Timestamp") = columns :=
      List.filter_eq_self.mpr fun _ hname => decide_eq_true (ne_of_mem_of_not_mem hname h)
    rw [if_neg (mt List.contains_iff_mem.mp h), if_neg h, List.nil_append, hsame]

/-- The header of the table has the names that its columns are to have, and no others are to be. -/
theorem heads_iff {result : Result} {columns : Option (List String)} {names : List String} :
    Heads (objects result) columns names ↔ names = header (rows result) columns := by
  cases columns with
  | some columns =>
    rw [header_some]
    constructor
    · intro h
      cases h with
      | asked h => rw [if_neg h]
      | moved h => rw [if_pos h]
    · rintro rfl
      split
      · next h => exact .moved h
      · next h => exact .asked h
  | none =>
    have hmem (name : String) :
        name ∈ sortedNames ((rows result).flatMap fun r => Dictionary.keys r.fields) ↔
          ∃ o ∈ objects result, ∃ v, (name, v) ∈ o.2 := by
      rw [mem_sortedNames, rows_eq, List.flatMap_map, List.mem_flatMap]
      simp [Dictionary.keys, rowOf]
    constructor
    · intro h
      cases h with
      | all hordered hnames =>
        refine congrArg ("Timestamp" :: ·) ?_
        exact hordered.eq_of_mem_iff (pairwise_sortedNames _) fun name =>
          (hnames name).trans (hmem name).symm
    · rintro rfl
      exact .all (pairwise_sortedNames _) hmem

/-! ### Lines -/

/-- A text that is not put between quotes is plain. -/
theorem isPlain_iff {s : String} :
    IsPlain s.toList ↔ (s.toList.any fun c => c == ',' || c == '\n' || c == '"') = false := by
  simp [IsPlain, and_assoc]

/-- A cell is the escaped text. -/
theorem cell_rowOf (o : Int × Dictionary Json) (column : String) :
    (rowOf o).cell column = escape (textIn o column) := by
  rw [Row.cell, textIn, rowOf]
  by_cases h : column = timestampColumn
  · rw [if_pos h, if_pos (show column = "Timestamp" from h)]
  · rw [if_neg h, if_neg (show ¬column = "Timestamp" from h)]
    cases Dictionary.find? o.2 column with
    | none => rfl
    | some v => cases v <;> rfl

/-- An escaped text spells the text. -/
theorem spellsField_escape (s : String) : SpellsField s (escape s).toList := by
  rw [escape]
  split
  · rw [String.toList_ofList]
    exact .quoted
  · next hplain => exact .bare (isPlain_iff.mpr (Bool.eq_false_iff.mpr hplain))

private theorem toList_line_singleton (cell : String) :
    (line [cell]).toList = cell.toList ++ ['\n'] := by
  simp [line, Text.join]

private theorem toList_line_cons {cell : String} {cells : List String} (hne : cells ≠ []) :
    (line (cell :: cells)).toList = cell.toList ++ ',' :: (line cells).toList := by
  cases cells with
  | nil => exact absurd rfl hne
  | cons next cells => simp [line, Text.join]

/-- Spelled fields with commas between them and the end of a line spell a record. -/
theorem spellsRecord_line {columns : List String} {field cell : String → String}
    (hne : columns ≠ []) (h : ∀ column ∈ columns, SpellsField (field column) (cell column).toList) :
    SpellsRecord (columns.map field) (line (columns.map cell)).toList := by
  induction columns with
  | nil => exact absurd rfl hne
  | cons column columns ih =>
    have hfield := h column List.mem_cons_self
    cases columns with
    | nil =>
      rw [List.map_singleton, List.map_singleton, toList_line_singleton]
      exact .last hfield
    | cons next columns =>
      have hmore := ih (List.cons_ne_nil next columns) fun c hc => h c (List.mem_cons_of_mem _ hc)
      rw [List.map_cons, List.map_cons (f := cell), toList_line_cons (by simp)]
      exact .more hfield hmore

/-- Objects are spelled by the lines of their rows. -/
theorem spells_rows {columns : List String} (hne : columns ≠ [])
    (os : List (Int × Dictionary Json)) :
    Spells (os.map fun o => columns.map (textIn o))
      (String.join (os.map fun o => line (columns.map (rowOf o).cell))).toList := by
  induction os with
  | nil => exact .empty
  | cons o os ih =>
    rw [List.map_cons, List.map_cons, String.join_cons, String.toList_append]
    refine .more (spellsRecord_line hne fun column _ => ?_) ih
    rw [cell_rowOf]
    exact spellsField_escape _

/-! ### Columns -/

-- No text is between quotes and the same text as it is: there are more quotes in front.
private theorem quoted_ne_self {cs ds es : List Char} {c : Char} (hc : c ≠ '"') (n : Nat) :
    List.replicate (n + 1) '"' ++ (doubled cs ++ ds) ≠ cs ++ c :: es := by
  induction cs generalizing n with
  | nil =>
    intro h
    exact hc (List.cons.inj h).1.symm
  | cons d cs ih =>
    intro h
    obtain ⟨rfl, htail⟩ := List.cons.inj h
    refine ih (n + 1) (Eq.trans ?_ htail)
    simp [doubled, List.replicate_succ']

private theorem plain_of_spellsField {field : String} {cs ds es : List Char} {c : Char}
    (h : SpellsField field cs) (hc : c ≠ '"') (heq : cs ++ ds = field.toList ++ c :: es) :
    IsPlain field.toList ∧ ds = c :: es := by
  cases h with
  | bare hplain => exact ⟨hplain, List.append_cancel_left heq⟩
  | quoted =>
    have hsame : List.replicate 1 '"' ++ (doubled field.toList ++ '"' :: ds) =
        field.toList ++ c :: es := by
      simpa using heq
    exact absurd hsame (quoted_ne_self hc 0)

/-- A line of names that spells them holds plain names only. -/
theorem isPlain_of_spellsRecord {names : List String} {cs ds es : List Char}
    (h : SpellsRecord names cs) (heq : cs ++ ds = (line names).toList ++ es) :
    ∀ name ∈ names, IsPlain name.toList := by
  induction h generalizing ds es with
  | last hfield =>
    rw [List.forall_mem_singleton]
    rw [toList_line_singleton, List.append_assoc, List.append_assoc] at heq
    exact (plain_of_spellsField hfield (by decide) heq).1
  | more hfield h ih =>
    have hne := h.ne_nil
    rw [toList_line_cons hne, List.append_assoc, List.append_assoc] at heq
    obtain ⟨hplain, hrest⟩ := plain_of_spellsField hfield (by decide) heq
    exact List.forall_mem_cons.mpr ⟨hplain, ih (List.cons.inj hrest).2⟩

private theorem csv_eq (result : Result) (columns : Option (List String)) :
    csv result columns = line (header (rows result) columns) ++ String.join
      ((objects result).map fun o => line ((header (rows result) columns).map (rowOf o).cell)) := by
  rw [csv, rows_eq, List.map_map]
  rfl

/-- A table has one list of columns, and it is read back exactly if there is a column and the names
of all of them are plain. -/
theorem read_csv_iff (result : Result) (columns : Option (List String)) :
    ∃ names, (∀ other, Heads (objects result) columns other ↔ other = names) ∧
      (read (csv result columns) = some (records result names) ↔
        names ≠ [] ∧ ∀ name ∈ names, IsPlain name.toList) := by
  refine ⟨header (rows result) columns, fun _ => heads_iff, ?_⟩
  rw [read_eq_some_iff, records, csv_eq, String.toList_append]
  generalize header (rows result) columns = names
  constructor
  · intro h
    generalize hrows : (objects result).map (fun o => names.map (textIn o)) = rest at h
    generalize htext : (line names).toList ++ (String.join
      ((objects result).map fun o => line (names.map (rowOf o).cell))).toList = text at h
    cases h with
    | more hnames hrest => exact ⟨hnames.ne_nil, isPlain_of_spellsRecord hnames htext.symm⟩
  · rintro ⟨hne, hplain⟩
    have hnames : SpellsRecord (names.map id) (line (names.map id)).toList :=
      spellsRecord_line hne fun name hname => .bare (hplain name hname)
    rw [List.map_id] at hnames
    exact .more hnames (spells_rows hne _)

/-- A log line with a field whose name holds a comma. -/
def commaName : Result :=
  .streams [{ labels := [], items := [⟨0, "\x7b\"a,b\":1\x7d"⟩] }]

/-- A field whose name holds a comma is read back as two columns. -/
theorem read_csv_commaName :
    Heads (objects commaName) none ["Timestamp", "a,b"] ∧
      records commaName ["Timestamp", "a,b"] =
        [["Timestamp", "a,b"], ["1970-01-01T00:00:00Z", "1"]] ∧
      read (csv commaName none) =
        some [["Timestamp", "a", "b"], ["1970-01-01T00:00:00Z", "1"]] :=
  ⟨heads_iff.mpr (by decide +kernel), by decide +kernel, by decide +kernel⟩

end FlowConsole.Export
