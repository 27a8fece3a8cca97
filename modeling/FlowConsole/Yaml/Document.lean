import FlowConsole.Yaml.Node

/-!
# Documents

A text holds one document: directives, a node, and marks of the document's start and end. The
anchors of a document are told by numbers. An anchor is numbered by the count of the names before
it, so a name that is given again may share its number with the next new name; an alias stands for
the last node with the number that its name has at the alias.
-/

namespace FlowConsole.Yaml

/-- A node whose anchors have numbers. -/
abbrev NumberedNode := Node Nat

/-- The names of anchors with their numbers. -/
abbrev AnchorNames := List (List Char × Nat)

/-- The names with a further anchor. -/
def AnchorNames.put (names : AnchorNames) (name : List Char) : AnchorNames :=
  (name, names.length) :: names.filter (·.1 ≠ name)

mutual

/-- The node with numbers for the names of its anchors, and the names after it. -/
def numbered? (names : AnchorNames) : NamedNode → Option (NumberedNode × AnchorNames)
  | .alias name => (List.lookup name names).map fun id => (.alias id, names)
  | .scalar tag style text => some (.scalar tag style text, names)
  | .sequence items tag =>
    (numberedItems? names items).map fun p => (.sequence p.1 tag, p.2)
  | .mapping entries tag =>
    (numberedEntries? names entries).map fun p => (.mapping p.1 tag, p.2)
  | .anchored name n =>
    (numbered? (names.put name) n).map fun p => (.anchored names.length p.1, p.2)

/-- The items with numbers for names. -/
def numberedItems? (names : AnchorNames) :
    List NamedNode → Option (List NumberedNode × AnchorNames)
  | [] => some ([], names)
  | n :: ns =>
    (numbered? names n).bind fun (n, names) =>
      (numberedItems? names ns).map fun (ns, names) => (n :: ns, names)

/-- The entries with numbers for names; a key comes before its value. -/
def numberedEntries? (names : AnchorNames) :
    List (NamedNode × NamedNode) → Option (List (NumberedNode × NumberedNode) × AnchorNames)
  | [] => some ([], names)
  | (k, v) :: es =>
    (numbered? names k).bind fun (k, names) =>
      (numbered? names v).bind fun (v, names) =>
        (numberedEntries? names es).map fun (es, names) => ((k, v) :: es, names)

end

namespace Node

mutual

/-- The number of scalars and aliases and of starts and ends of collections. -/
def size {ref : Type} : Node ref → Nat
  | .alias _ | .scalar _ _ _ => 1
  | .sequence items _ => sizeOfItems items + 2
  | .mapping entries _ => sizeOfEntries entries + 2
  | .anchored _ n => size n

/-- `size` of all items. -/
def sizeOfItems {ref : Type} : List (Node ref) → Nat
  | [] => 0
  | n :: ns => size n + sizeOfItems ns

/-- `size` of all keys and values. -/
def sizeOfEntries {ref : Type} : List (Node ref × Node ref) → Nat
  | [] => 0
  | (k, v) :: es => size k + size v + sizeOfEntries es

end

mutual

/-- The nodes with anchors, in the order in which they start. -/
def targets : NumberedNode → List (Nat × NumberedNode)
  | .alias _ | .scalar _ _ _ => []
  | .sequence items _ => targetsOfItems items
  | .mapping entries _ => targetsOfEntries entries
  | .anchored id n => (id, n) :: targets n

/-- `targets` of all items. -/
def targetsOfItems : List NumberedNode → List (Nat × NumberedNode)
  | [] => []
  | n :: ns => targets n ++ targetsOfItems ns

/-- `targets` of all keys and values. -/
def targetsOfEntries : List (NumberedNode × NumberedNode) → List (Nat × NumberedNode)
  | [] => []
  | (k, v) :: es => targets k ++ targets v ++ targetsOfEntries es

end

end Node

/-- A document. -/
structure Document where
  root : NumberedNode
  /-- The nodes that aliases stand for, the last one first. -/
  targets : List (Nat × NumberedNode)
  size : Nat

/-- The document of a node; none if an alias has no anchor before it. -/
def Document.ofNode? (n : NamedNode) : Option Document :=
  (numbered? [] n).map fun (root, _) =>
    { root, targets := root.targets.reverse, size := root.size }

/-- The directives in front of a document: the number of versions and the handles of tags. -/
structure Directives where
  versions : Nat := 0
  handles : TagHandles := []

namespace Directives

/-- Takes a further directive, if the token is one. Versions 1.1 and 1.2 can be read, no version and
no handle may be given twice. -/
def add? (d : Directives) : Token → Option Directives
  | .version major minor =>
    if d.versions = 0 ∧ major = 1 ∧ (minor = 1 ∨ minor = 2) then some { d with versions := 1 }
    else none
  | .handle name start =>
    if (List.lookup name d.handles).isSome then none
    else some { d with handles := (name, start) :: d.handles }
  | _ => none

end Directives

/-- The token of a directive. -/
def Token.isDirective : Token → Bool
  | .version _ _ | .handle _ _ => true
  | _ => false

/-- The handles of a document's tags, whether the document's start is marked, and the tokens after
the start. Directives need the mark. -/
def readStart? (ts : List Token) : Option (TagHandles × Bool × List Token) :=
  let (directives, rest) := ts.span Token.isDirective
  match directives.foldlM Directives.add? {}, rest with
  | none, _ => none
  | some d, .documentStart :: rest => some (d.handles ++ .byDefault, true, rest)
  | some _, rest => if directives.isEmpty then some (.byDefault, false, rest) else none

/-- A document goes no further. -/
def endsDocument (ts : List Token) : Bool :=
  ts.head?.all fun t => t.isDirective || t == .documentStart || t == .documentEnd

/-- The document of tokens. A document without a node is empty, if its start is marked or there is
nothing at all. -/
def Document.ofTokens? (ts : List Token) : Option Document := do
  let (handles, isMarked, ts) ← readStart? ts
  let (node, rest) ←
    if (isMarked && endsDocument ts) || ts.isEmpty then some (.empty none, ts)
    else readNode handles ⟨true, false⟩ ts (4 * ts.length + 4)
  guard (rest.all (· == .documentEnd))
  Document.ofNode? node

/-- The document of a text. -/
def Document.read? (text : List Char) : Option Document :=
  ((normalized? text).bind tokens?).bind ofTokens?

end FlowConsole.Yaml
