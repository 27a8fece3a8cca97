import FlowConsole.Metric.Function
import FlowConsole.Metric.Measure
import FlowConsole.Text.Character

/-!
# Aggregations

The labels that a metric query is grouped by. A request names a known scope, such as the namespace,
or any one field; and it may name further groups whose labels are added.
-/

namespace FlowConsole.Metric

/-- The labels a metric query is grouped by. -/
structure Aggregate where
  key : String
  labels : List String
  /-- The key is a field and no known scope. -/
  custom : Bool
  deriving DecidableEq, Repr

namespace Aggregate

/-- The labels of the hosts of both ends. -/
def hostLabels : List String := ["SrcK8S_HostName", "DstK8S_HostName"]

/-- The labels of the namespaces of both ends. -/
def namespaceLabels : List String := ["SrcK8S_Namespace", "DstK8S_Namespace"]

/-- The labels of the zones of both ends. -/
def zoneLabels : List String := ["SrcK8S_Zone", "DstK8S_Zone"]

/-- The label of the cluster. -/
def clusterLabels : List String := ["K8S_ClusterName"]

/-- The labels of the owners of both ends, in their namespaces. -/
def ownerLabels : List String :=
  ["SrcK8S_OwnerName", "SrcK8S_OwnerType", "DstK8S_OwnerName", "DstK8S_OwnerType",
    "SrcK8S_Namespace", "DstK8S_Namespace"]

/-- The labels of the resources of both ends, with their hosts. -/
def resourceLabels : List String :=
  ["SrcK8S_Name", "SrcK8S_Type", "SrcAddr", "SrcK8S_HostName", "DstK8S_Name", "DstK8S_Type",
    "DstAddr", "DstK8S_HostName"]

/-- The labels of the known scopes. -/
def scopes : List (String × List String) :=
  [("app", ["app"]), ("droppedState", ["PktDropLatestState"]),
    ("droppedCause", ["PktDropLatestDropCause"]), ("dnsRCode", ["DnsFlagsResponseCode"]),
    ("cluster", clusterLabels), ("zone", zoneLabels), ("host", hostLabels),
    ("namespace", namespaceLabels), ("owner", ownerLabels),
    ("resource", ownerLabels ++ resourceLabels)]

/-- The labels of the groups that may be added. -/
def groups : List (String × List String) :=
  [("", []), ("clusters", clusterLabels), ("zones", zoneLabels), ("hosts", hostLabels),
    ("namespaces", namespaceLabels), ("owners", ownerLabels)]

/-- The aggregation of a scope or of a field. -/
def ofKey (key : String) : Except QueryError Aggregate :=
  match List.lookup key scopes with
  | some labels => .ok ⟨key, labels, false⟩
  | none =>
    if key = "" then .error (.unsupported .emptyAggregate) else .ok ⟨key, [key], true⟩

/-- Adds a label unless it is there. -/
def addLabel (labels : List String) (label : String) : List String :=
  if labels.contains label then labels else labels ++ [label]

/-- Adds the labels of a group. -/
def addGroup (a : Aggregate) (word : String) : Except QueryError Aggregate :=
  match List.lookup (Text.trim word) groups with
  | some labels => .ok { a with labels := labels.foldl addLabel a.labels }
  | none => .error (.unsupported (.aggregateGroup (Text.trim word)))

/-- The aggregation of a scope or a field and of comma separated groups. -/
def parse (key : String) (groups : Option String) : Except QueryError Aggregate := do
  let a ← ofKey key
  match groups with
  | none => return a
  | some words => (Text.split ',' words).foldlM addGroup a

/-- The labels with commas between them. -/
def joined (a : Aggregate) : String := Text.join "," a.labels

end Aggregate

/-- What a metric query asks for. -/
structure Options where
  /-- The number of series that are kept. -/
  top : Nat
  step : String
  rateInterval : String
  measure : Measure
  function : Function
  aggregate : Aggregate

/-- The function that is applied: measures that count flows are counted whatever was asked. -/
def Options.effectiveFunction (o : Options) : Function :=
  if o.measure.isCount then .count else o.function

end FlowConsole.Metric
