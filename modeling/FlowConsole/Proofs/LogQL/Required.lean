import FlowConsole.LogQL.Flow
import FlowConsole.Proofs.LogQL.Search

/-!
# What options require

The options of a query ask for records without regard to its matches: those of the app, of a kind,
with or without a mark of duplicates, and with packets that were lost or sent. What each of them
asks for is written out here, as comparisons in the selector (`required`) and as searches of the
line (`requiredSearches`), and the query of the options asks for just that (`render_fixedLabels`,
`searches_fixedLines`).
-/

namespace FlowConsole.LogQL

/-- The words of a kind of records. -/
def RecordType.words : RecordType → List String
  | flowLog => ["flowLog"]
  | newConnection => ["newConnection"]
  | heartbeat => ["heartbeat"]
  | endConnection => ["endConnection"]
  | allConnections => ["newConnection", "heartbeat", "endConnection"]

/-- The comparison of the record type, where it is a label: with one word, or with any of several.
-/
def RecordType.comparison (t : RecordType) : String :=
  match t.words with
  | [word] => "_RecordType=\"" ++ word ++ "\""
  | words => "_RecordType=~`" ++ Text.join "|" words ++ "`"

/-- What the selector compares for the options: the app, and the record type where it is a label. -/
def FlowOptions.required (c : Catalog) (o : FlowOptions) : List String :=
  "app=\"netobserv-flowcollector\"" ::
    if c.isLabel "_RecordType" then o.recordType.toList.map RecordType.comparison else []

/-- The pattern of a name and the colon after it. Where another known name ends in this one, it is
matched from its opening quote. -/
def namePattern (c : Catalog) (name : String) : String :=
  (if c.needsStrictKey name then "\"" else "") ++ name ++ "\":"

namespace LineSearch

/-- The search for a field. -/
def presence (c : Catalog) (name : String) : LineSearch := ⟨true, namePattern c name⟩

/-- The search for the record type: any of its words as a text. -/
def recordType (c : Catalog) (t : RecordType) : LineSearch :=
  ⟨true, Text.join "|" (t.words.map fun word =>
    namePattern c "_RecordType" ++ "\"" ++ word ++ "\"")⟩

/-- The search for a number of a field, up to what ends it. -/
def count (c : Catalog) (name number : String) : LineSearch :=
  ⟨true, namePattern c name ++ number ++ "[,\x7d]"⟩

/-- The searches for a mark of duplicates: originals have it and it is false, and duplicates are
those where it is true. -/
def dedup : Dedup → List LineSearch
  | .none => []
  | .keepUnique => [⟨true, "Duplicate\":false"⟩]
  | .dropDuplicates => [⟨false, "Duplicate\":true"⟩]

/-- The searches for what became of packets. -/
def packetLoss (c : Catalog) : PacketLoss → List LineSearch
  | .all => []
  | .dropped => [count c "Packets" "0", count c "PktDropPackets" "[1-9][0-9]*"]
  | .hasDrops => [count c "PktDropPackets" "[1-9][0-9]*"]
  | .sent => [count c "Packets" "[1-9][0-9]*"]

end LineSearch

/-- What is searched in lines for the options, where the record type is no label. -/
def FlowOptions.requiredSearches (c : Catalog) (o : FlowOptions) : List LineSearch :=
  LineSearch.dedup o.dedup ++
    (if c.isLabel "_RecordType" then [] else o.recordType.toList.map (LineSearch.recordType c)) ++
    LineSearch.packetLoss c o.packetLoss

namespace FlowQuery

/-- The query of the options compares in its selector what they require. -/
theorem render_fixedLabels (c : Catalog) (o : FlowOptions) :
    (ofOptions c o).fixedLabels.map LabelFilter.render = o.required c := by
  have happ : appFilter.render = "app=\"netobserv-flowcollector\"" := by decide
  have htype (t : RecordType) : (recordTypeLabel t).render = t.comparison := by
    cases t <;> decide
  rw [ofOptions, FlowOptions.required, List.map_cons, happ]
  congr 1
  by_cases h : c.isLabel Field.recordType = true
  · rw [if_pos h, if_pos (show c.isLabel "_RecordType" = true from h), List.map_map]
    exact List.map_congr_left fun t _ => htype t
  · rw [if_neg h, if_neg (show ¬c.isLabel "_RecordType" = true from h), List.map_nil]

/-- A required field is searched by its name. -/
theorem searches_presence (c : Catalog) (name : String) :
    (LineFilter.presence name (c.needsStrictKey name)).searches = [.presence c name] := rfl

private theorem searches_exact (c : Catalog) (name : String) {values : List String}
    (hne : values ≠ []) (h : ∀ v ∈ values, Atom.pattern v = v) :
    (LineFilter.exact name values (c.needsStrictKey name)).searches =
      [⟨true, Text.join "|" (values.map fun v => namePattern c name ++ "\"" ++ v ++ "\"")⟩] := by
  have hbody : (LineFilter.exact name values (c.needsStrictKey name)).body =
      Text.join "|" (values.map fun v => namePattern c name ++ "\"" ++ v ++ "\"") := by
    rw [LineFilter.body, if_neg (by simpa [LineFilter.exact] using hne), LineFilter.exact,
      List.map_map]
    refine congrArg (Text.join "|") (List.map_congr_left fun v hv => ?_)
    simp [LineFilter.alternative, LineFilter.fragment, LineFilter.keyPattern, LineValue.pattern,
      LineValue.boundary, namePattern, h v hv, String.append_assoc]
    rw [← String.append_assoc]
    rfl
  rw [LineFilter.searches, hbody]
  rfl

private theorem searches_recordTypeLine (c : Catalog) (t : RecordType) :
    (recordTypeLine c t).searches = [.recordType c t] := by
  have hwords : t.values = t.words := by
    cases t <;> rfl
  have hne : t.words ≠ [] := by
    cases t <;> exact List.cons_ne_nil _ _
  have hplain : ∀ word ∈ t.words, Atom.pattern word = word := by
    cases t <;> decide
  rw [recordTypeLine, hwords]
  exact searches_exact c Field.recordType hne hplain

private theorem searches_dedupLines (d : Dedup) :
    (dedupLines d).flatMap LineFilter.searches = LineSearch.dedup d := by
  cases d <;> rfl

private theorem searches_packetLossLines (c : Catalog) (p : PacketLoss) :
    (packetLossLines c p).flatMap LineFilter.searches = LineSearch.packetLoss c p := by
  cases p <;> rfl

/-- The query of the options searches lines for what they require. -/
theorem searches_fixedLines (c : Catalog) (o : FlowOptions) :
    (ofOptions c o).fixedLines.flatMap LineFilter.searches = o.requiredSearches c := by
  have htypes : (o.recordType.toList.map (recordTypeLine c)).flatMap LineFilter.searches =
      o.recordType.toList.map (LineSearch.recordType c) := by
    cases o.recordType with
    | none => rfl
    | some t => exact searches_recordTypeLine c t
  rw [ofOptions, FlowOptions.requiredSearches, List.flatMap_append, List.flatMap_append,
    searches_dedupLines, searches_packetLossLines]
  congr 2
  by_cases h : c.isLabel Field.recordType = true
  · rw [if_pos h, if_pos (show c.isLabel "_RecordType" = true from h), List.flatMap_nil]
  · rw [if_neg h, if_neg (show ¬c.isLabel "_RecordType" = true from h), htypes]

end FlowQuery

end FlowConsole.LogQL
