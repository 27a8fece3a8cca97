import FlowConsole.Proofs.Record.Places

/-!
# Records with any names

A flat record may have members of any names, which are escaped on its line as texts are. A key is
found there where a name as it is written ends with it (`FlatRecord.exists_split_of_key`), and at
all such names (`FlatRecord.exists_line_of_suffix`).
-/

namespace FlowConsole

/-- A member of a flat record: a name and a value that is no object and no array. -/
structure Member where
  name : String
  value : RecordValue

/-- The members of a flat record in order. -/
abbrev FlatRecord := List Member

/-- The member as it stands on the line. -/
def Member.onLine (w : Escaping) (e : Member) : WrittenField where
  name := e.name.toList.flatMap w.escape
  escaped := w.isEscaped e.name.toList
  value := e.value

/-- As it is written after its opening quote, the name of the member ends with the key, or with a
quote and the key. -/
def Member.IsNamed (w : Escaping) (strict : Bool) (key : String) (e : Member) : Prop :=
  (if strict then ['"'] else []) ++ key.toList <:+ '"' :: (e.onLine w).name

/-- A key without quotes names a member whose name is written as it is exactly if it is the name, or
the name ends with it. -/
theorem Member.isNamed_iff_of_keeps {w : Escaping} {strict : Bool} {key : String} {e : Member}
    (hkey : '"' ∉ key.toList) (hname : w.Keeps e.name) :
    e.IsNamed w strict key ↔ if strict then e.name = key else key.toList <:+ e.name.toList := by
  have hwritten : (e.onLine w).name = e.name.toList := hname.flatMap_escape
  rw [IsNamed, hwritten, WrittenField.suffix_quote_cons_iff hkey hname.not_mem.1,
    String.toList_inj]

namespace FlatRecord

/-- The line of a flat record. -/
def line (w : Escaping) (r : FlatRecord) : String :=
  String.ofList (WrittenField.line w (r.map (Member.onLine w)))

/-- What follows the value of a member, where the given members come after it. -/
def closing (w : Escaping) (r : FlatRecord) : List Char :=
  WrittenField.closing w (r.map (Member.onLine w))

variable {w : Escaping} {strict : Bool} {key : String}

/-- After a value comes a comma or the closing brace. -/
theorem closing_eq (w : Escaping) (r : FlatRecord) :
    ∃ c cs, closing w r = c :: cs ∧ (c = ',' ∨ c = '\x7d') :=
  WrittenField.closing_eq w _

/-- Where a key, a quote and a colon stand on a line, the value of a member that is named so
follows. -/
theorem exists_split_of_key {r : FlatRecord} {before after : List Char}
    (hkey : ∀ c ∈ key.toList, c ≠ '"' ∧ c ∉ openingSigns) (hne : strict = true ∨ key ≠ "")
    (h : (r.line w).toList =
      before ++ ((if strict then ['"'] else []) ++ key.toList) ++ '"' :: ':' :: after) :
    ∃ pre e post, r = pre ++ e :: post ∧ e.IsNamed w strict key ∧
      after = e.value.written w ++ closing w post := by
  rw [line, String.toList_ofList] at h
  obtain ⟨pre, p, post, hps, hsuffix, hafter⟩ := WrittenField.exists_split_of_key hkey
    (hne.imp_right fun hne hnil => hne (String.toList_eq_nil_iff.mp hnil)) h
  obtain ⟨pre, rest, rfl, -, hrest⟩ := List.map_eq_append_iff.mp hps
  obtain ⟨e, post, rfl, rfl, rfl⟩ := List.map_eq_cons_iff.mp hrest
  exact ⟨pre, e, post, rfl, hsuffix, hafter⟩

/-- The value of a member stands on the line after whatever its name, after the opening quote, ends
with. -/
theorem exists_line_of_suffix (pre : FlatRecord) {e : Member} (post : FlatRecord)
    {text : List Char} (h : text <:+ '"' :: (e.onLine w).name) :
    ∃ before, (line w (pre ++ e :: post)).toList =
      before ++ text ++ '"' :: ':' :: (e.value.written w ++ closing w post) := by
  obtain ⟨before, hline⟩ := WrittenField.exists_line_of_suffix w (pre.map (Member.onLine w))
    (post.map (Member.onLine w)) h
  refine ⟨before, ?_⟩
  rw [line, String.toList_ofList, List.map_append, List.map_cons]
  exact hline

end FlatRecord

end FlowConsole
