import FlowConsole.Yaml.Token

/-!
# Nodes of documents

A document is a tree of scalars, sequences and mappings. A node may have an anchor, and an alias
stands for the node of an anchor; `ref` is what they are told by. The tokens of a node are read from
left to right. Every function that reads collections has fuel, of which each call uses one unit; a
text of `n` tokens needs at most a fixed multiple of `n`.
-/

namespace FlowConsole.Yaml

/-- A node of a document. -/
inductive Node (ref : Type)
  | alias (target : ref)
  | scalar (tag : Option Tag) (style : Style) (text : String)
  | sequence (items : List (Node ref)) (tag : Option Tag)
  | mapping (entries : List (Node ref × Node ref)) (tag : Option Tag)
  | anchored (anchor : ref) (node : Node ref)

namespace Node

/-- The node of an absent value. -/
def empty {ref : Type} (tag : Option Tag) : Node ref := .scalar tag .plain ""

/-- The node without its anchor. -/
def content {ref : Type} : Node ref → Node ref
  | .anchored _ n => n.content
  | n => n

end Node

/-- A node whose anchors have names. -/
abbrev NamedNode := Node (List Char)

/-- What stands in front of a node. -/
structure Properties where
  anchor : Option (List Char) := none
  tag : Option TagText := none

/-- The anchor and the tag in front of a node, in either order, and what follows them. -/
def readProperties : List Token → Properties × List Token
  | .anchor name :: .tag tag :: ts | .tag tag :: .anchor name :: ts => (⟨some name, some tag⟩, ts)
  | .anchor name :: ts => (⟨some name, none⟩, ts)
  | .tag tag :: ts => (⟨none, some tag⟩, ts)
  | ts => ({}, ts)

/-- Where a node stands, which tells what it may be. -/
structure Place where
  /-- Block collections are allowed. -/
  isBlock : Bool
  /-- So are the items of a sequence without a column of their own. -/
  mayListItems : Bool := false

/-- The node has no token of its own: one of these stands in its place. -/
def isAbsent (stops : List Token) (ts : List Token) : Bool := ts.head?.all stops.contains

mutual

/-- The node at the start of the tokens, and what follows it. -/
def readNode (handles : TagHandles) (place : Place) (ts : List Token) :
    Nat → Option (NamedNode × List Token)
  | 0 => none
  | fuel + 1 =>
    match ts with
    | .alias name :: ts => some (.alias name, ts)
    | _ =>
      let (properties, ts) := readProperties ts
      let tag? : Option (Option Tag) := properties.tag.mapM (·.resolve? handles)
      match tag? with
      | none => none
      | some tag =>
        let bare : Option (NamedNode × List Token) :=
          match ts with
          | .scalar style text :: ts => some (.scalar tag style text, ts)
          | .flowSequence :: .flowSequenceEnd :: ts => some (.sequence [] tag, ts)
          | .flowSequence :: ts =>
            (readFlowItems handles [] ts fuel).map fun p => (.sequence p.1 tag, p.2)
          | .flowMapping :: .flowMappingEnd :: ts => some (.mapping [] tag, ts)
          | .flowMapping :: ts =>
            (readFlowEntries handles [] ts fuel).map fun p => (.mapping p.1 tag, p.2)
          | t :: rest =>
            if t = .item ∧ place.mayListItems then
              (readItems handles [] ts fuel).map fun p => (.sequence p.1 tag, p.2)
            else if t = .blockSequence ∧ place.isBlock then
              (readItems handles [] rest fuel).bind fun p =>
                if p.2.head? = some .blockEnd then some (.sequence p.1 tag, p.2.tail) else none
            else if t = .blockMapping ∧ place.isBlock then
              (readEntries handles [] rest fuel).map fun p => (.mapping p.1 tag, p.2)
            else if properties.anchor.isSome || tag.isSome then some (.empty tag, ts)
            else none
          | [] => if properties.anchor.isSome || tag.isSome then some (.empty tag, ts) else none
        match properties.anchor with
        | none => bare
        | some anchor => bare.map fun p => (.anchored anchor p.1, p.2)
termination_by structural fuel => fuel

/-- A node that may be absent: one of `stops` stands in its place then. -/
def readOptional (handles : TagHandles) (place : Place) (stops ts : List Token) :
    Nat → Option (NamedNode × List Token)
  | 0 => none
  | fuel + 1 =>
    if isAbsent stops ts then some (.empty none, ts) else readNode handles place ts fuel
termination_by structural fuel => fuel

/-- The items of a block sequence after some items, which are given in reverse, and what follows
them. -/
def readItems (handles : TagHandles) (items : List NamedNode) (ts : List Token) :
    Nat → Option (List NamedNode × List Token)
  | 0 => none
  | fuel + 1 =>
    match ts with
    | .item :: ts =>
      match readOptional handles ⟨true, false⟩ [.item, .key, .value, .blockEnd] ts fuel with
      | none => none
      | some (item, ts) => readItems handles (item :: items) ts fuel
    | _ => some (items.reverse, ts)
termination_by structural fuel => fuel

/-- The entries of a block mapping after some entries, which are given in reverse, and what follows
their end. A value without a key is none. -/
def readEntries (handles : TagHandles) (entries : List (NamedNode × NamedNode)) (ts : List Token) :
    Nat → Option (List (NamedNode × NamedNode) × List Token)
  | 0 => none
  | fuel + 1 =>
    match ts with
    | .blockEnd :: ts => some (entries.reverse, ts)
    | .key :: ts =>
      match readOptional handles ⟨true, true⟩ [.key, .value, .blockEnd] ts fuel with
      | none => none
      | some (key, .value :: ts) =>
        match readOptional handles ⟨true, true⟩ [.key, .value, .blockEnd] ts fuel with
        | none => none
        | some (value, ts) => readEntries handles ((key, value) :: entries) ts fuel
      | some (key, ts) => readEntries handles ((key, .empty none) :: entries) ts fuel
    | _ => none
termination_by structural fuel => fuel

/-- The value after a key in a flow collection, which may be left out together with its sign. -/
def readFlowValue (handles : TagHandles) (stop : Token) (ts : List Token) :
    Nat → Option (NamedNode × List Token)
  | 0 => none
  | fuel + 1 =>
    match ts with
    | .value :: ts => readOptional handles ⟨false, false⟩ [.comma, stop] ts fuel
    | _ => some (.empty none, ts)
termination_by structural fuel => fuel

/-- The items of a flow sequence after some items, which are given in reverse, and what follows
their end. A marked key with its value is an item: a mapping of one entry. If that key is absent,
the token in its place is passed over. -/
def readFlowItems (handles : TagHandles) (items : List NamedNode) (ts : List Token) :
    Nat → Option (List NamedNode × List Token)
  | 0 => none
  | fuel + 1 =>
    let item : Option (NamedNode × List Token) := match ts with
      | .key :: ts =>
        let key : Option (NamedNode × List Token) :=
          if isAbsent [.value, .comma, .flowSequenceEnd] ts then some (.empty none, ts.tail)
          else readNode handles ⟨false, false⟩ ts fuel
        match key with
        | none => none
        | some (key, ts) =>
          (readFlowValue handles .flowSequenceEnd ts fuel).map fun p =>
            (Node.mapping [(key, p.1)] none, p.2)
      | ts => readNode handles ⟨false, false⟩ ts fuel
    match item with
    | some (item, .flowSequenceEnd :: ts)
    | some (item, .comma :: .flowSequenceEnd :: ts) => some ((item :: items).reverse, ts)
    | some (item, .comma :: ts) => readFlowItems handles (item :: items) ts fuel
    | _ => none
termination_by structural fuel => fuel

/-- The entries of a flow mapping after some entries, which are given in reverse, and what follows
their end. A key without a mark has no value. -/
def readFlowEntries (handles : TagHandles) (entries : List (NamedNode × NamedNode))
    (ts : List Token) : Nat → Option (List (NamedNode × NamedNode) × List Token)
  | 0 => none
  | fuel + 1 =>
    let entry : Option ((NamedNode × NamedNode) × List Token) := match ts with
      | .key :: ts =>
        match readOptional handles ⟨false, false⟩ [.value, .comma, .flowMappingEnd] ts fuel with
        | none => none
        | some (key, ts) =>
          (readFlowValue handles .flowMappingEnd ts fuel).map fun p => ((key, p.1), p.2)
      | ts =>
        (readNode handles ⟨false, false⟩ ts fuel).map fun p => ((p.1, Node.empty none), p.2)
    match entry with
    | some (entry, .flowMappingEnd :: ts)
    | some (entry, .comma :: .flowMappingEnd :: ts) => some ((entry :: entries).reverse, ts)
    | some (entry, .comma :: ts) => readFlowEntries handles (entry :: entries) ts fuel
    | _ => none
termination_by structural fuel => fuel

end

end FlowConsole.Yaml
