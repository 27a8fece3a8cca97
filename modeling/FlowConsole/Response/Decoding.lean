import FlowConsole.Decimal.Reading
import FlowConsole.Json.Reading
import FlowConsole.Response.Basic

/-!
# Decoding answers

An answer is an object with a status and the data: the kind of the result, the result itself, and
statistics. Unknown members are skipped, a member may not be given twice, and an object may also be
written as the array of its members in order. The envelope is read from the structure of the text,
so that what is skipped need only have the right structure.
-/

namespace FlowConsole.Response

open Json (Tree)
open Utf8 (Bytes)

/-- Why a body is no answer. -/
inductive Error
  /-- The text is no JSON, or has not the shape of an answer. -/
  | malformed
  | failed (status : String)
  | unknownKind (name : String)
  | invalidTimestamp (text : String) (reason : Integer.Error)
  | invalidValue (text : String) (reason : Decimal.ReadError)
  deriving DecidableEq, Repr

/-- The wording of an error. -/
def Error.message : Error → String
  | .malformed => "malformed response"
  | .failed status => "query status is `" ++ status ++ "`"
  | .unknownKind name => "unsupported result type `" ++ name ++ "`"
  | .invalidTimestamp text reason => "invalid timestamp `" ++ text ++ "`: " ++ reason.message
  | .invalidValue text reason => "invalid sample value `" ++ text ++ "`: " ++ reason.message

/-- The value, or the error of a malformed body. -/
def orMalformed {α : Type} : Option α → Except Error α
  | some a => .ok a
  | none => .error .malformed

/-- The members with the given names, in the order of the names: those of an object, each at most
once, or the items of an array, as many as there are. The keys of an object must be text. -/
def fields (names : List String) : Tree → Option (List (Option Tree))
  | .object members =>
    match members.mapM fun m => (Json.textOf? m.1).map fun key => (key, m.2) with
    | none => none
    | some members =>
      names.mapM fun name =>
        match members.filter fun m => m.1 == name with
        | [] => some none
        | [m] => some (some m.2)
        | _ => none
  | .array items =>
    if items.length ≤ names.length then
      some (items.map some ++ List.replicate (names.length - items.length) none)
    else none
  | _ => none

/-- The text of a string. -/
def text? : Tree → Option String
  | .string raw => Json.textOf? raw
  | _ => none

/-- The text of a member, empty if it is missing. -/
def textOrEmpty? : Option Tree → Option String
  | none => some ""
  | some t => text? t

/-- The value of a member, null if it is missing. The envelope takes up two levels of nesting. -/
def valueOrNull? : Option Tree → Option Json
  | none => some .null
  | some t => t.value? (Json.maxDepth - 2)

/-- The parts of an answer before the result is decoded. -/
structure Envelope where
  status : String
  kind : String
  result : Json
  stats : Json

/-- The envelope of a tree. -/
def Envelope.ofTree? (t : Tree) : Option Envelope := do
  let [status, some data] ← fields ["status", "data"] t | none
  let [some kind, result, stats] ← fields ["resultType", "result", "stats"] data | none
  return ⟨← textOrEmpty? status, ← text? kind, ← valueOrNull? result, ← valueOrNull? stats⟩

/-- The labels of a stream or of a series. -/
def labelsOf? : Json → Option (Dictionary String)
  | .object members => members.mapM fun m => m.2.string?.map fun v => (m.1, v)
  | _ => none

/-- The two items of a pair. -/
def pairOf? : Json → Option (Json × Json)
  | .array [a, b] => some (a, b)
  | _ => none

/-- The entry of a pair of texts. -/
def Entry.ofJson (v : Json) : Except Error Entry := do
  let (time, line) ← orMalformed (pairOf? v)
  let time ← orMalformed time.string?
  let line ← orMalformed line.string?
  match Integer.parse time with
  | .ok nanos => return ⟨nanos, line⟩
  | .error reason => throw (.invalidTimestamp time reason)

/-- Milliseconds of a number of seconds, to the nearest and within 64 bits; a half goes away from
zero. -/
def millisOf (seconds : Float) : Int := (seconds * 1000.0).round.toInt64.toInt

/-- The sample of a time and a text. -/
def Sample.ofJson (v : Json) : Except Error Sample := do
  let (time, value) ← orMalformed (pairOf? v)
  let .number time := time | throw .malformed
  let text ← orMalformed value.string?
  match Decimal.read text.toList with
  | .ok value => return ⟨millisOf time.toFloat, value⟩
  | .error reason => throw (.invalidValue text reason)

/-- The items of an array, each decoded. -/
def listOf {α : Type} (item : Json → Except Error α) (v : Json) : Except Error (List α) := do
  (← orMalformed v.items?).mapM item

/-- The labels and the items of a stream or of a series. The labels are decoded first, and an array
that is too long is refused after its items. -/
def Labelled.ofJson {α : Type} (name : String) (item : Json → Except Error α) (v : Json) :
    Except Error (Labelled α) := do
  match v with
  | .object members =>
    let labels ← (Dictionary.find? members name).mapM fun m => orMalformed (labelsOf? m)
    let items ← (Dictionary.find? members "values").mapM (listOf item)
    match labels, items with
    | some labels, some items => return ⟨labels, items⟩
    | _, _ => throw .malformed
  | .array (labels :: items :: rest) =>
    let labels ← orMalformed (labelsOf? labels)
    let items ← listOf item items
    if rest.isEmpty then return ⟨labels, items⟩ else throw .malformed
  | _ => throw .malformed

/-- The result of a kind. -/
def Result.ofJson (kind : String) (v : Json) : Except Error Result :=
  if kind = Kind.streams.name then
    (listOf (Labelled.ofJson streamLabels Entry.ofJson) v).map .streams
  else if kind = Kind.matrix.name then
    (listOf (Labelled.ofJson seriesLabels Sample.ofJson) v).map .matrix
  else .error (.unknownKind kind)

/-- The answer of an envelope. A status that is given must be that of success. -/
def Answer.ofEnvelope (e : Envelope) : Except Error Answer := do
  if e.status ≠ "" ∧ e.status ≠ "success" then throw (.failed e.status)
  return ⟨← Result.ofJson e.kind e.result, e.stats⟩

/-- Decodes the body of an answer. -/
def Answer.decode (body : Bytes) : Except Error Answer := do
  Answer.ofEnvelope (← orMalformed ((Tree.parse? body).bind Envelope.ofTree?))

end FlowConsole.Response
