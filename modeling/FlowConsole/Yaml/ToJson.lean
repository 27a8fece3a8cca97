import FlowConsole.Json.Basic
import FlowConsole.Yaml.Access

/-!
# Documents as JSON values

Plain scalars become what they stand for, scalars with a tag what it says, and all other scalars
texts. Numbers without a finite value become null. Integers beyond 64 bits have no value if they fit
in 128 bits, and are doubles otherwise. Keys of objects must be texts.
-/

namespace FlowConsole.Yaml

namespace Scalar

/-- The value of an integer that fits in 128 bits, if it also fits in 64 bits. -/
def integer? (cs : List Char) : Option (Option Json) :=
  match natural? (Nat.pow 2 128 - 1) cs, negative? (Nat.pow 2 127) cs with
  | some n, _ => some (if n < Nat.pow 2 64 then some (.number (.natural n)) else none)
  | none, some 0 => some (some (.number (.natural 0)))
  | none, some n => some (if n ≤ Nat.pow 2 63 then some (.number (.negative n)) else none)
  | none, none => none

/-- A double; those that are not finite become null. -/
def ofFloat (x : Float) : Json := if x.isFinite then .number (.float x) else .null

/-- The value that a plain scalar stands for. -/
def toJson? (text : String) : Option Json :=
  if isNull text then some .null
  else
    match bool? text with
    | some b => some (.bool b)
    | none =>
      match integer? text.toList with
      | some value => value
      | none =>
        match if isPadded text.toList then none else float? text.toList with
        | some x => some (ofFloat x)
        | none => some (.string text)

/-- The value of a scalar with a tag. A tag that is a name stands for nothing here; one of an
unknown kind says that the scalar is a text. -/
def ofTag? (tag : Tag) (text : String) : Option Json :=
  if tag.localName?.isSome then none
  else if tag = .standard "null" then if isNullWord text then some .null else none
  else if tag = .standard "bool" then (bool? text).map .bool
  else if tag = .standard "int" then (integer? text.toList).join
  else if tag = .standard "float" then (float? text.toList).map ofFloat
  else some (.string text)

end Scalar

namespace Node

/-- A collection may have a tag, but none that is a name. -/
def hasLocalTag (tag : Option Tag) : Bool := (tag.bind Tag.localName?).isSome

/-- The value of a node. Collections may be nested no deeper than `depth`. -/
def toJson (depth : Nat) (n : NumberedNode) : Reading Json := do
  match ← n.resolved with
  | .scalar (some tag) _ text => Scalar.ofTag? tag text
  | .scalar none .plain text => Scalar.toJson? text
  | .scalar none _ text => return .string text
  | .sequence items tag =>
    match depth with
    | 0 => failure
    | depth + 1 =>
      if hasLocalTag tag then failure
      return .array (← items.mapM (toJson depth))
  | .mapping entries tag =>
    match depth with
    | 0 => failure
    | depth + 1 =>
      if hasLocalTag tag then failure
      let members ← entries.mapM fun (k, v) => do
        let key ← (← toJson depth k).string?
        return (key, ← toJson depth v)
      return .ofEntries members
  | _ => failure

end Node

end FlowConsole.Yaml
