import FlowConsole.Request.Parameter

/-!
# Requests for flow records

What a request for records or for their export asks for.
-/

namespace FlowConsole.Request

/-- Whether records must satisfy all matches of a group or any of them. -/
inductive MatchMode
  | all
  | any
  deriving DecidableEq, Repr

/-- The match mode of a word. -/
def MatchMode.parse (word : String) : Except Rejection MatchMode :=
  if word = "" ∨ word = "all" then .ok .all
  else if word = "any" then .ok .any
  else .error (.unknownMatchMode word)

/-- A request for flow records. -/
structure Records where
  options : LogQL.FlowOptions
  filters : Filter.Expression
  matchMode : MatchMode

namespace Records

/-- The names of the parameters. -/
def parameterNames : List String :=
  ["startTime", "endTime", "timeRange", "limit", "recordType", "packetLoss", "dedup", "filters",
    "match", "format", "columns"]

/-- Reads a request at the time `now`. -/
def read (ps : Parameters) (now : Int) : Except Failure Records := do
  let window ← accept (Window.read ps now)
  let dedup ← accept (ps.flag "dedup")
  let limit ← accept ps.limit
  let recordType ← ps.recordType?
  let packetLoss ← ps.packetLoss
  let filters ← ps.filters
  let matchMode ← accept (MatchMode.parse ((ps.get? "match").getD ""))
  return {
    options := {
      start := window.start
      finish := window.finish
      limit := some limit
      dedup := if dedup then .keepUnique else .none
      recordType
      packetLoss }
    filters
    matchMode }

/-- The columns of an export, if any are named. -/
def columns? (ps : Parameters) : Option (List String) := (ps.given? "columns").map (Text.split ',')

/-- Checks the format of an export. -/
def checkFormat (ps : Parameters) : Except Rejection Unit :=
  if ps.get? "format" = some "csv" then .ok ()
  else .error (.unsupportedFormat ((ps.get? "format").getD ""))

end Records

end FlowConsole.Request
