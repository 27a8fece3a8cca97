import FlowConsole.Dictionary

/-!
# JSON values

The members of an object are a dictionary, so an object has each key once and shows its members in
the order of their keys. Numbers keep whether they were written as integers.
-/

namespace FlowConsole

/-- A number: an integer of 64 bits, unsigned or negative, or a finite double. -/
inductive Json.Number
  | natural (n : Nat)
  | negative (n : Nat)
  | float (x : Float)

/-- A JSON value. -/
inductive Json
  | null
  | bool (b : Bool)
  | number (n : Json.Number)
  | string (s : String)
  | array (items : List Json)
  | object (members : List (String × Json))

namespace Json

instance : Inhabited Json := ⟨.null⟩

/-- The double that a number stands for. -/
def Number.toFloat : Number → Float
  | .natural n => n.toUInt64.toFloat
  | .negative n => -n.toUInt64.toFloat
  | .float x => x

/-- A natural number. -/
def ofNat (n : Nat) : Json := .number (.natural n)

/-- An integer. -/
def ofInt (n : Int) : Json :=
  .number (if n < 0 then .negative n.natAbs else .natural n.natAbs)

/-- An object with the given entries. -/
def ofEntries (entries : List (String × Json)) : Json := .object (Dictionary.ofEntries entries)

/-- A value, or null if there is none. -/
def ofOption {α : Type} (f : α → Json) : Option α → Json
  | none => .null
  | some a => f a

/-- An object whose values are strings. -/
def ofTexts (d : Dictionary String) : Json := .object (d.map fun e => (e.1, .string e.2))

/-- The text, if the value is a string. -/
def string? : Json → Option String
  | .string s => some s
  | _ => none

/-- The items, if the value is an array. -/
def items? : Json → Option (List Json)
  | .array items => some items
  | _ => none

/-- The members, if the value is an object. -/
def members? : Json → Option (List (String × Json))
  | .object members => some members
  | _ => none

end Json

end FlowConsole
