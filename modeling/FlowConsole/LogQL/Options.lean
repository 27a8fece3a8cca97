import FlowConsole.QueryError

/-!
# Options of flow queries

The conditions of a flow query that do not come from its filters: the window of time, the number of
records, which of the duplicates are kept, and the kinds of records.
-/

namespace FlowConsole.LogQL

/-- What is done about flows that were reported more than once. -/
inductive Dedup
  | none
  /-- Keep the records that are marked as no duplicates. -/
  | keepUnique
  /-- Drop the records that are marked as duplicates. -/
  | dropDuplicates
  deriving DecidableEq, Repr

/-- A kind of record. -/
inductive RecordType
  | flowLog
  | newConnection
  | heartbeat
  | endConnection
  | allConnections
  deriving DecidableEq, Repr

namespace RecordType

/-- All kinds of records. -/
def all : List RecordType :=
  [.flowLog, .newConnection, .heartbeat, .endConnection, .allConnections]

/-- The word for a kind in requests. -/
def word : RecordType → String
  | .flowLog => "flowLog"
  | .newConnection => "newConnection"
  | .heartbeat => "heartbeat"
  | .endConnection => "endConnection"
  | .allConnections => "allConnections"

/-- The values of the record type field. -/
def values : RecordType → List String
  | .allConnections => [word .newConnection, word .heartbeat, word .endConnection]
  | t => [t.word]

/-- The kind of a word of a request. -/
def parse (word : String) : Except QueryError RecordType :=
  (all.find? fun t => t.word == word).elim (.error (.unsupported (.recordType word))) .ok

end RecordType

/-- Which flows are kept by the packets they lost. -/
inductive PacketLoss
  /-- Every packet was dropped. -/
  | dropped
  /-- Some packet was dropped. -/
  | hasDrops
  /-- Some packet was sent. -/
  | sent
  | all
  deriving DecidableEq, Repr

namespace PacketLoss

/-- The packet loss of a word of a request. -/
def parse (word : String) : Except QueryError PacketLoss :=
  if word = "dropped" then .ok .dropped
  else if word = "hasDrops" then .ok .hasDrops
  else if word = "sent" then .ok .sent
  else if word = "all" then .ok .all
  else .error (.unsupported (.packetLoss word))

end PacketLoss

/-- The options of a flow query. Times are seconds since the epoch. -/
structure FlowOptions where
  start : Option Int := none
  finish : Option Int := none
  limit : Option Nat := none
  dedup : Dedup := .none
  recordType : Option RecordType := none
  packetLoss : PacketLoss := .all
  deriving DecidableEq, Repr

/-- A parameter of a query, if it has a value. -/
def parameter (name : String) : Option String → String
  | none => ""
  | some value => "&" ++ name ++ "=" ++ value

/-- The parameters of a window. -/
def windowParameters (start finish : Option Int) : String :=
  parameter "start" (start.map toString) ++ parameter "end" (finish.map toString)

/-- The address of range queries, up to the query itself. -/
def queryRange (base : String) : String :=
  base ++ "/loki/api/v1/query_range?query="

end FlowConsole.LogQL
