import FlowConsole.Export.Csv
import FlowConsole.Proofs.Json.Values

/-!
# Columns and fields

A table without a list of columns has the time first and then a column for every field of the
records, in increasing order. Each field has its one column and each record its value there, so
nothing is lost, unless a record has a field of the name of the time column: it gets a second
column of that name, and both of them show the time (`keepsFields_iff`).
-/

namespace FlowConsole.Export

open Response (Result Stream)

/-- The columns of a table for which none are asked for. -/
def columns (ss : List Stream) : List String := header (rows (.streams ss)) none

/-- The name is that of a field of a record. -/
def IsField (ss : List Stream) (name : String) : Prop :=
  ∃ r ∈ rows (.streams ss), name ∈ Dictionary.keys r.fields

/-- The table keeps the fields of all records: its columns are the time and the other fields, each
once, and a record has the value of a field in the one column of the name. -/
structure KeepsFields (ss : List Stream) : Prop where
  text : csv (.streams ss) none = line (columns ss) ++
    String.join ((rows (.streams ss)).map fun r => line ((columns ss).map r.cell))
  header : ∃ names, columns ss = timestampColumn :: names ∧ names.Pairwise (· < ·) ∧
    ∀ name, name ∈ names ↔ name ≠ timestampColumn ∧ IsField ss name
  nodup : (columns ss).Nodup
  kept : ∀ r ∈ rows (.streams ss), ∀ field ∈ r.fields,
    (columns ss).count field.1 = 1 ∧ r.cell field.1 = cell field.2

/-! ### Records -/

/-- The members of an object that is read are in order. -/
theorem ordered_of_parse? {bs : Utf8.Bytes} {members : Dictionary Json}
    (h : Json.parse? bs = some (.object members)) : members.Ordered := by
  obtain ⟨tree, -, hvalue⟩ := Option.bind_eq_some_iff.mp h
  cases Json.within_of_value? hvalue with
  | object _ hordered _ => exact hordered

/-- The fields of a record are in order. -/
theorem ordered_of_mem_rows {result : Result} {r : Row} (h : r ∈ rows result) :
    r.fields.Ordered := by
  cases result with
  | matrix => exact absurd h List.not_mem_nil
  | streams ss =>
    obtain ⟨e, -, he⟩ := List.mem_filterMap.mp h
    obtain ⟨v, hv, hmembers⟩ := Option.bind_eq_some_iff.mp he
    obtain ⟨fields, hfields, rfl⟩ := Option.map_eq_some_iff.mp hmembers
    cases v <;> cases hfields
    exact ordered_of_parse? hv

/-- The cell of a field is its value, unless the field has the name of the time column. -/
theorem cell_of_mem {ss : List Stream} {r : Row} (hr : r ∈ rows (.streams ss)) {name : String}
    {v : Json} (hv : (name, v) ∈ r.fields) :
    r.cell name = if name = timestampColumn then escape r.timestamp else cell v := by
  rw [Row.cell, (ordered_of_mem_rows hr).find?_of_mem hv, Option.map_some, Option.getD_some]

/-! ### Columns -/

section

variable {ss : List Stream} {name : String}

/-- The names after the time are those of the fields. -/
theorem mem_fieldNames :
    name ∈ sortedNames ((rows (.streams ss)).flatMap fun r => Dictionary.keys r.fields) ↔
      IsField ss name := by
  rw [mem_sortedNames, List.mem_flatMap, IsField]

/-- A field has one column, or two if it has the name of the time column. -/
theorem count_of_isField (h : IsField ss name) :
    (columns ss).count name = if name = timestampColumn then 2 else 1 := by
  have hone := (nodup_sortedNames _).count (a := name) |>.trans (if_pos (mem_fieldNames.mpr h))
  rw [columns, header, List.count_cons, hone]
  by_cases hname : name = timestampColumn
  · rw [if_pos hname, if_pos (beq_iff_eq.mpr hname.symm)]
  · rw [if_neg hname, if_neg fun heq => hname (beq_iff_eq.mp heq).symm]

end

/-- The table keeps the fields of all records exactly if no record has a field of the name of the
time column. -/
theorem keepsFields_iff (ss : List Stream) : KeepsFields ss ↔ ¬IsField ss timestampColumn := by
  constructor
  · intro h hfield
    have hmem : timestampColumn ∈ columns ss := List.mem_cons_self
    have htwice := count_of_isField hfield
    rw [h.nodup.count, if_pos hmem, if_pos rfl] at htwice
    cases htwice
  · intro h
    have hother {name : String} (hname : IsField ss name) : name ≠ timestampColumn :=
      fun heq => h (heq ▸ hname)
    refine ⟨rfl, ⟨_, rfl, pairwise_sortedNames _, fun name => ?_⟩, ?_, fun r hr field hfield => ?_⟩
    · rw [mem_fieldNames]
      exact ⟨fun hname => ⟨hother hname, hname⟩, And.right⟩
    · exact List.nodup_cons.mpr ⟨fun hname => h (mem_fieldNames.mp hname), nodup_sortedNames _⟩
    · have hname : IsField ss field.1 := ⟨r, hr, List.mem_map_of_mem hfield⟩
      rw [count_of_isField hname, cell_of_mem hr hfield, if_neg (hother hname),
        if_neg (hother hname)]
      exact ⟨rfl, rfl⟩

/-- A record with a field of the name of the time column. -/
def timedRecord : List Stream :=
  [{ labels := [], items := [⟨0, "\x7b\"Timestamp\":5,\"a\":1\x7d"⟩] }]

/-- The field has the second of two columns of one name, and the time stands in its place. -/
theorem not_keepsFields_timedRecord :
    csv (.streams timedRecord) none =
        "Timestamp,Timestamp,a\n1970-01-01T00:00:00Z,1970-01-01T00:00:00Z,1\n" ∧
      ¬KeepsFields timedRecord := by
  refine ⟨by decide +kernel, fun h => ?_⟩
  have htwice : ¬(columns timedRecord).Nodup := by decide +kernel
  exact htwice h.nodup

end FlowConsole.Export
