import FlowConsole.Dictionary
import FlowConsole.Text.Split

/-!
# Flow fields

What is known of the fields of a flow record by their names: which of them are labels of a stream,
which hold numbers, addresses or arrays, and which bare names stand for a source and a destination
field at once.
-/

namespace FlowConsole

/-- The side on which a flow was seen. -/
inductive Direction
  | ingress
  | egress
  | inner
  | any
  deriving DecidableEq, Repr

/-- The value of the direction field. -/
def Direction.code? : Direction → Option String
  | .ingress => some "0"
  | .egress => some "1"
  | .inner => some "2"
  | .any => none

/-- The direction of a value of the direction field. -/
def Direction.ofCode? (code : String) : Option Direction :=
  if code = "0" then some .ingress
  else if code = "1" then some .egress
  else if code = "2" then some .inner
  else none

namespace Field

/-- The start of the names of source fields. -/
def source : String := "Src"

/-- The start of the names of destination fields. -/
def destination : String := "Dst"

/-- The direction of a flow, seen from the host that reports it. -/
def flowDirection : String := "FlowDirection"

/-- The kind of a record. -/
def recordType : String := "_RecordType"

/-- The mark of flows that another host reports, too. -/
def duplicate : String := "Duplicate"

/-- The number of packets that were sent. -/
def packets : String := "Packets"

/-- The number of packets that were lost. -/
def droppedPackets : String := "PktDropPackets"

/-- The layer of a flow: that of applications or that of the infrastructure. -/
def flowLayer : String := "K8S_FlowLayer"

/-- The namespace that a flow leaves. -/
def sourceNamespace : String := "SrcK8S_Namespace"

/-- The namespace that a flow enters. -/
def destinationNamespace : String := "DstK8S_Namespace"

/-- The kind of the object that a flow enters. -/
def destinationType : String := "DstK8S_Type"

/-- The fields that hold numbers unless configured otherwise. -/
def defaultNumeric : List String :=
  ["Port", "SrcPort", "DstPort", "Packets", "Proto", "Bytes", "DnsId", "DnsLatencyMs", "Dscp",
    "IcmpType", "IcmpCode", "Flags", "FlowDirection", "TimeFlowRttNs", "PktDropPackets",
    "PktDropBytes"]

/-- The fields that hold addresses unless configured otherwise. -/
def defaultAddresses : List String := ["SrcAddr", "DstAddr", "SrcK8S_HostIP", "DstK8S_HostIP"]

/-- `key` starts with `start`. -/
def startsWith (start key : String) : Bool := start.toList.isPrefixOf key.toList

/-- `key` is longer than `ending` and ends with it. -/
def properlyEndsWith (ending key : String) : Bool :=
  ending.toList.isSuffixOf key.toList && ending.length < key.length

/-- The field of the other side, for a source or a destination field. -/
def peer? (key : String) : Option String :=
  match source.toList.isPrefixOf? key.toList with
  | some rest => some (destination ++ String.ofList rest)
  | none => (destination.toList.isPrefixOf? key.toList).map fun rest => source ++ String.ofList rest

end Field

/-- What is known of the fields. -/
structure Catalog where
  labels : List String
  numeric : List String
  addresses : List String
  arrays : List String
  known : List String

namespace Catalog

/-- The catalog of a list of labels, with the default numbers and addresses. -/
def ofLabels (labels : List String) : Catalog where
  labels := labels
  numeric := Field.defaultNumeric
  addresses := Field.defaultAddresses
  arrays := []
  known := labels ++ Field.defaultNumeric ++ Field.defaultAddresses

/-- The type names an array. -/
def isArrayType (type : String) : Bool :=
  Text.occursIn "array".toList type.toList || "[]".toList.isSuffixOf type.toList

/-- Adds a field by the type and the format that describe it. Types are compared without regard to
case; a format names an address if `IP` occurs in it. -/
def register (c : Catalog) (name : String) (type format : Option String) : Catalog :=
  let type := type.map fun t => String.ofList (t.toList.map Char.toLower)
  let isArray := type.any isArrayType
  let isNumber := type.any fun t => !isArrayType t && t == "number"
  let isAddress := format.any fun f => Text.occursIn "IP".toList f.toList
  { c with
    known := name :: c.known
    arrays := if isArray then name :: c.arrays else c.arrays
    numeric := if isNumber then name :: c.numeric else c.numeric
    addresses := if isAddress then name :: c.addresses else c.addresses }

/-- Adds the fields of a dictionary of types and of a dictionary of formats. -/
def withFields (c : Catalog) (types formats : Dictionary String) : Catalog :=
  let c := types.foldl (fun c e => c.register e.1 (some e.2) none) c
  formats.foldl (fun c e => c.register e.1 none (some e.2)) c

/-- The source and the destination field of a bare name, if at least one of them is known. -/
def pair? (c : Catalog) (key : String) : Option (String × String) :=
  if Field.startsWith Field.source key || Field.startsWith Field.destination key then none
  else
    let src := Field.source ++ key
    let dst := Field.destination ++ key
    if c.known.contains src || c.known.contains dst then some (src, dst) else none

/-- The key, or one of the fields it stands for, is in the set. -/
def belongs (c : Catalog) (set : List String) (key : String) : Bool :=
  set.contains key || (c.pair? key).any fun p => set.contains p.1 || set.contains p.2

/-- The field is a label of a stream. -/
def isLabel (c : Catalog) (key : String) : Bool := c.labels.contains key

/-- The field holds numbers. -/
def isNumeric (c : Catalog) (key : String) : Bool := c.belongs c.numeric key

/-- The field holds addresses. -/
def isAddress (c : Catalog) (key : String) : Bool := c.belongs c.addresses key

/-- The field holds arrays. -/
def isArray (c : Catalog) (key : String) : Bool := c.belongs c.arrays key

/-- The end of another known name is this key, so that the key must be matched from its start. A
bare name that stands for a pair is meant to match the end of both. -/
def needsStrictKey (c : Catalog) (key : String) : Bool :=
  (c.pair? key).isNone && c.known.any (Field.properlyEndsWith key)

end Catalog

end FlowConsole
