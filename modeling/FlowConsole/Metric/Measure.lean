import FlowConsole.QueryError

/-!
# Measured values

What a metric query measures: a number of flows, or the sum of a field.
-/

namespace FlowConsole.Metric

/-- The measured value of a metric query. -/
inductive Measure
  | flows
  | bytes
  | packets
  | dnsLatency
  | roundTripTime
  | droppedPackets
  | droppedBytes
  | dnsFlows
  deriving DecidableEq, Repr

namespace Measure

/-- All measures. -/
def all : List Measure :=
  [.flows, .bytes, .packets, .dnsLatency, .roundTripTime, .droppedPackets, .droppedBytes,
    .dnsFlows]

/-- The name of a measure, which is also the field that is summed. -/
def name : Measure → String
  | .flows => "Flows"
  | .bytes => "Bytes"
  | .packets => "Packets"
  | .dnsLatency => "DnsLatencyMs"
  | .roundTripTime => "TimeFlowRttNs"
  | .droppedPackets => "PktDropPackets"
  | .droppedBytes => "PktDropBytes"
  | .dnsFlows => "DnsFlows"

/-- The measure of a name. -/
def ofName? (name : String) : Option Measure := all.find? fun m => m.name == name

/-- The measure of a word of a request. -/
def parse (word : String) : Except QueryError Measure :=
  (ofName? word).elim (.error (.unsupported (.measure word))) .ok

/-- The field that a flow must have to carry the value. -/
def requiredField? : Measure → Option String
  | .dnsLatency => some "DnsLatencyMs"
  | .roundTripTime => some "TimeFlowRttNs"
  | .droppedPackets => some "PktDropPackets"
  | .droppedBytes => some "PktDropBytes"
  | .dnsFlows => some "DnsId"
  | .flows | .bytes | .packets => none

/-- The measure counts flows and sums no field. -/
def isCount : Measure → Bool
  | .flows | .dnsFlows => true
  | _ => false

/-- The factor from the unit that is exported to the unit that is shown. -/
def scale? : Measure → Option String
  | .dnsLatency | .roundTripTime => some "*1000"
  | _ => none

end Measure

end FlowConsole.Metric
