import FlowConsole.Dictionary
import FlowConsole.Yaml.Document
import FlowConsole.Yaml.Scalar

/-!
# Values of nodes

What the nodes of a document are read as. Any scalar is a text; truth values and integers are plain
scalars, or literal ones with the tag of their kind. An absent node is an empty list or a section
without settings. Reading follows aliases, but only a limited number of times, so that a small
document does not grow without bounds.
-/

namespace FlowConsole.Yaml

/-- Reads from a document; the state is how often an alias may still be followed. -/
abbrev Reading := ReaderT Document (StateT Nat Option)

/-- How often aliases may be followed for each part of a document. -/
def aliasesPerPart : Nat := 100

/-- What is read from a document. -/
def Document.run? {α : Type} (d : Document) (f : NumberedNode → Reading α) : Option α :=
  ((f d.root).run d).run' (aliasesPerPart * d.size)

/-- Follows an alias. -/
def follow (id : Nat) : Reading NumberedNode := do
  let left ← get
  if left = 0 then failure
  set (left - 1)
  match List.lookup id (← read).targets with
  | some n => return n.content
  | none => failure

namespace Node

/-- The node without its anchor, or the one that an alias stands for. -/
def resolved (n : NumberedNode) : Reading NumberedNode :=
  match n.content with
  | .alias id => follow id
  | n => return n

/-- The text of a scalar. -/
def text (n : NumberedNode) : Reading String := do
  match ← n.resolved with
  | .scalar _ _ text => return text
  | _ => failure

/-- The text of a scalar that may be a value of a kind. -/
def textOfKind (kind : String) (n : NumberedNode) : Reading String := do
  match ← n.resolved with
  | .scalar _ .plain text => return text
  | .scalar tag .literal text => if tag = some (.standard kind) then return text else failure
  | _ => failure

/-- A truth value. -/
def bool (n : NumberedNode) : Reading Bool := do
  Scalar.bool? (← n.textOfKind "bool")

/-- An integer from zero to the bound. -/
def natural (bound : Nat) (n : NumberedNode) : Reading Nat := do
  Scalar.natural? bound (← n.textOfKind "int").toList

/-- A word of a choice. It may be written as a tag of an absent node. -/
def word (n : NumberedNode) : Reading String := do
  match ← n.resolved with
  | .scalar tag style text =>
    match tag.bind Tag.localName? with
    | none => return text
    | some name => if style = .plain ∧ Scalar.isNull text then return name else failure
  | _ => failure

/-- The node says that there is no value: it is absent or a plain scalar that stands for null. -/
def isNull : NumberedNode → Reading Bool
  | .scalar none .plain text => return Scalar.isNull text
  | .scalar (some tag) .plain text =>
    if tag = .standard "null" then
      if Scalar.isNullWord text then return true else failure
    else return false
  | _ => return false

/-- A value that may be null. -/
def optional {α : Type} (f : NumberedNode → Reading α) (n : NumberedNode) :
    Reading (Option α) := do
  let n ← n.resolved
  if ← n.isNull then return none else some <$> f n

/-- The node is a plain scalar without text. -/
def isEmpty : NumberedNode → Bool
  | .scalar _ .plain "" => true
  | _ => false

/-- The items of a sequence. -/
def items (n : NumberedNode) : Reading (List NumberedNode) := do
  match ← n.resolved with
  | .sequence items _ => return items
  | n => if n.isEmpty then return [] else failure

/-- The entries of a mapping. -/
def entries (n : NumberedNode) : Reading (List (NumberedNode × NumberedNode)) := do
  match ← n.resolved with
  | .mapping entries _ => return entries
  | n => if n.isEmpty then return [] else failure

/-- The items of a sequence, each read as a value. -/
def list {α : Type} (f : NumberedNode → Reading α) (n : NumberedNode) : Reading (List α) := do
  (← n.items).mapM f

/-- The entries of a mapping whose keys are texts, in the order they are written. -/
def members (n : NumberedNode) : Reading (List (String × NumberedNode)) := do
  (← n.entries).mapM fun e => do return (← e.1.text, e.2)

/-- A dictionary of texts; the last entry of a key wins. -/
def texts (n : NumberedNode) : Reading (Dictionary String) := do
  let entries ← (← n.members).mapM fun m => do return (m.1, ← m.2.text)
  return Dictionary.ofEntries entries

end Node

/-- The settings of a section by their names. -/
abbrev Section := List (String × NumberedNode)

namespace Section

/-- A section in which none of the known settings is given twice. -/
def ofNode (known : List String) (n : NumberedNode) : Reading Section := do
  let members ← n.members
  if known.all fun name => (members.filter fun m => m.1 == name).length ≤ 1 then return members
  else failure

/-- The value of a setting, or what it is by default. -/
def get {α : Type} (s : Section) (name : String) (byDefault : α)
    (f : NumberedNode → Reading α) : Reading α :=
  match List.lookup name s with
  | none => return byDefault
  | some n => f n

/-- The value of a setting that has no default. -/
def need {α : Type} (s : Section) (name : String) (f : NumberedNode → Reading α) : Reading α :=
  match List.lookup name s with
  | none => failure
  | some n => f n

/-- The value of a setting that may be left out or null. -/
def get? {α : Type} (s : Section) (name : String) (f : NumberedNode → Reading α) :
    Reading (Option α) :=
  s.get name none (Node.optional f)

end Section

end FlowConsole.Yaml
