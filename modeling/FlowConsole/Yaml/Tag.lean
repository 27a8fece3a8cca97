import FlowConsole.Text.Integer
import FlowConsole.Text.Utf8
import FlowConsole.Yaml.Basic

/-!
# Tags

A tag tells what kind of value a node is. It is an address, written in full between angle brackets,
or as a handle, which stands for the start of an address, and the rest of it. Directives in front of
a document give addresses for handles. Bytes of a tag may be written as percent escapes.
-/

namespace FlowConsole.Yaml

/-- A tag: the bytes of an address. -/
structure Tag where
  bytes : Utf8.Bytes
  deriving DecidableEq, Repr

/-- What the addresses of the kinds of values that every reader knows start with. -/
def Tag.standardPrefix : String := "tag:yaml.org,2002:"

namespace Tag

/-- The tag of an address; a byte zero ends it. -/
def ofBytes (bs : Utf8.Bytes) : Tag := ⟨bs.takeWhile (· ≠ 0)⟩

/-- The tag of a kind of values that every reader knows. -/
def standard (kind : String) : Tag := ⟨Utf8.encode (standardPrefix ++ kind)⟩

/-- The name of a tag that is no address but a name after an exclamation mark. -/
def localName? (t : Tag) : Option String :=
  match t.bytes with
  | 0x21 :: name => (Utf8.decode name).toOption
  | _ => none

end Tag

/-- A tag as it is written: a handle, which is empty for a full address, and the rest. -/
structure TagText where
  handle : List Char
  suffix : Utf8.Bytes
  deriving DecidableEq, Repr

/-- What handles stand for. -/
abbrev TagHandles := List (List Char × Utf8.Bytes)

/-- The handles that need no directive. -/
def TagHandles.byDefault : TagHandles :=
  [("!".toList, Utf8.encode "!"), ("!!".toList, Utf8.encode Tag.standardPrefix)]

/-- The tag of a text; none if its handle stands for nothing. -/
def TagText.resolve? (t : TagText) (handles : TagHandles) : Option Tag :=
  if t.handle.isEmpty then some (.ofBytes t.suffix)
  else (List.lookup t.handle handles).map fun start => .ofBytes (start ++ t.suffix)

/-- A character of addresses; some structure flow collections and are allowed only in full ones. -/
def isTagChar (isFull : Bool) (c : Char) : Bool :=
  isNameChar c || ";/?:@&=+$.%!~*\x27()".toList.contains c || (isFull && ",[]".toList.contains c)

/-- The byte of a percent escape, and what follows it. -/
def readEscapedByte? : List Char → Option (UInt8 × List Char)
  | '%' :: a :: b :: cs => (Text.numeral? 16 [a, b]).map fun n => (n.toUInt8, cs)
  | _ => none

/-- The number of bytes of the character that a byte starts. -/
def sequenceLength? (b : UInt8) : Option Nat :=
  if b < 0x80 then some 1
  else if 0xC0 ≤ b ∧ b < 0xE0 then some 2
  else if 0xE0 ≤ b ∧ b < 0xF0 then some 3
  else if 0xF0 ≤ b ∧ b < 0xF8 then some 4
  else none

/-- The bytes of an address, and what follows it. A character may be written as percent escapes of
its bytes, of which `pending` are still to come. -/
def readAddress? (isFull : Bool) (pending : Nat) (read : Utf8.Bytes) (cs : List Char) :
    Nat → Option (Utf8.Bytes × List Char)
  | 0 => none
  | fuel + 1 =>
    if 0 < pending then
      match readEscapedByte? cs with
      | some (b, rest) =>
        if Utf8.isContinuation b then readAddress? isFull (pending - 1) (read ++ [b]) rest fuel
        else none
      | none => none
    else
      match cs with
      | [] => some (read, [])
      | c :: rest =>
        if c = '%' then
          match readEscapedByte? cs with
          | some (b, rest) =>
            match sequenceLength? b with
            | some length => readAddress? isFull (length - 1) (read ++ [b]) rest fuel
            | none => none
          | none => none
        else if isTagChar isFull c then
          readAddress? isFull 0 (read ++ String.utf8EncodeChar c) rest fuel
        else some (read, cs)

/-- The address at the start of a text. -/
def addressOf? (isFull : Bool) (cs : List Char) : Option (Utf8.Bytes × List Char) :=
  readAddress? isFull 0 [] cs (cs.length + 1)

/-- The handle that starts with an exclamation mark: a second one ends it. -/
def readHandle? : List Char → Option (List Char × List Char)
  | '!' :: cs =>
    let name := cs.takeWhile isNameChar
    let rest := cs.dropWhile isNameChar
    match rest with
    | '!' :: rest => some ('!' :: name ++ ['!'], rest)
    | rest => some ('!' :: name, rest)
  | _ => none

/-- The text of the tag at the start of a text, and what follows it. -/
def tagText? (cs : List Char) : Option (TagText × List Char) :=
  match cs with
  | '!' :: '<' :: rest =>
    match addressOf? true rest with
    | some (suffix, '>' :: rest) => if suffix.isEmpty then none else some (⟨[], suffix⟩, rest)
    | _ => none
  | _ =>
    match readHandle? cs with
    | none => none
    | some (handle, rest) =>
      match addressOf? false rest with
      | none => none
      | some (suffix, after) =>
        if 1 < handle.length ∧ handle.getLast? = some '!' then
          if suffix.isEmpty then none else some (⟨handle, suffix⟩, after)
        else
          let suffix := Utf8.encode (String.ofList (handle.drop 1)) ++ suffix
          if suffix.isEmpty then some (⟨[], Utf8.encode "!"⟩, after)
          else some (⟨['!'], suffix⟩, after)

/-- The tag at a place, and what follows it. A blank ends it, or in a flow collection a comma. -/
def readTag? (inFlow : Bool) (c : Cursor) : Option (TagText × Cursor) :=
  (tagText? c.rest).bind fun (tag, rest) =>
    if startsBlank rest || (inFlow && rest.head? == some ',') then some (tag, c.moveTo rest)
    else none

end FlowConsole.Yaml
