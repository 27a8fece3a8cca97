import FlowConsole.Export.Timestamp
import FlowConsole.Json.Printing
import FlowConsole.Json.Reading
import FlowConsole.Response.Basic

/-!
# Flow records as a table

The table has a row for every log line that is a JSON object. The column of the time comes first
and takes its cells from the times of the lines; the other columns are fields of the records.
-/

namespace FlowConsole.Export

open Response (Entry Result Stream)

/-- The name of the time column. -/
def timestampColumn : String := "Timestamp"

/-- A record: when it was logged, and its fields. -/
structure Row where
  timestamp : String
  fields : Dictionary Json

/-- The row of a log line, if the line is an object. -/
def Row.ofEntry? (e : Entry) : Option Row :=
  (Json.parse? (Utf8.encode e.line)).bind fun v =>
    v.members?.map fun fields => ⟨renderTime e.nanos, fields⟩

/-- The rows of a result. Time series have none. -/
def rows : Result → List Row
  | .streams ss => (ss.flatMap fun s => s.items).filterMap Row.ofEntry?
  | .matrix _ => []

/-- The columns of a table: the time and every field in increasing order, or the columns that were
asked for with the time moved to the front. -/
def header (rows : List Row) : Option (List String) → List String
  | none => timestampColumn :: sortedNames (rows.flatMap fun r => Dictionary.keys r.fields)
  | some columns =>
    (if columns.contains timestampColumn then [timestampColumn] else []) ++
      columns.filter (· ≠ timestampColumn)

/-- The text between quotes with its quotes doubled, if it holds a comma, a quote or a newline. -/
def escape (s : String) : String :=
  if s.toList.any fun c => c == ',' || c == '\n' || c == '"' then
    String.ofList ('"' :: s.toList.flatMap (fun c => if c = '"' then ['"', '"'] else [c]) ++ ['"'])
  else s

/-- The cell of a value. -/
def cell : Json → String
  | .null => ""
  | .string s => escape s
  | v => escape v.render

/-- The cell of a row in a column. -/
def Row.cell (r : Row) (column : String) : String :=
  if column = timestampColumn then escape r.timestamp
  else ((Dictionary.find? r.fields column).map Export.cell).getD ""

/-- The cells of a line and the line's end. -/
def line (cells : List String) : String := Text.join "," cells ++ "\n"

/-- The table of a result. -/
def csv (result : Result) (columns : Option (List String)) : String :=
  let rows := rows result
  let header := header rows columns
  line header ++ String.join (rows.map fun r => line (header.map r.cell))

end FlowConsole.Export
