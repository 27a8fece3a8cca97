import FlowConsole.LogQL.Line
import FlowConsole.Text.Word

/-!
# Label filters from line filters

After the `json` stage the fields of a record are labels, so most line filters can be stated as
label filters. The name and the value are recovered from the pattern of the line: the first place
where a name, a quote and a colon are followed, up to the end, by a quoted value or by digits.
-/

namespace FlowConsole.LogQL

/-- A name and a value found in a pattern. -/
structure Recovered where
  name : String
  value : String
  isNumber : Bool
  deriving DecidableEq, Repr

namespace Recovered

/-- A character of a recovered name. -/
def isNameChar (c : Char) : Bool := Text.isWord c || c == '.' || c == '-'

/-- The value of a quoted text that ends with the pattern. The closing quote may be missing, and a
quote after a circumflex is part of the value. -/
def quotedValue? : List Char → Option (List Char)
  | [] => some []
  | '^' :: '"' :: cs => (quotedValue? cs).map fun v => '^' :: '"' :: v
  | ['"'] => some []
  | c :: cs => if c = '"' then none else (quotedValue? cs).map (c :: ·)

/-- The value that follows a name. -/
def ofValue? (name : List Char) : List Char → Option Recovered
  | '"' :: cs => (quotedValue? cs).map fun v => ⟨String.ofList name, String.ofList v, false⟩
  | cs =>
    if !cs.isEmpty && cs.all Text.isAnyDigit then
      some ⟨String.ofList name, String.ofList cs, true⟩
    else none

/-- The name at the start of a pattern and the value that it leads to. -/
def atStart? (cs : List Char) : Option Recovered :=
  match cs.dropWhile isNameChar with
  | '"' :: ':' :: rest => ofValue? (cs.takeWhile isNameChar) rest
  | _ => none

/-- The first name and value of a pattern. -/
def first? : List Char → Option Recovered
  | [] => none
  | c :: cs => (atStart? (c :: cs)).or (first? cs)

/-- The comparison of the name with the value. -/
def toLabel (r : Recovered) (negated : Bool) : LabelFilter :=
  if r.isNumber then .number r.name r.value negated else .regex r.name r.value negated

/-- The label filters of all recovered values. A negated alternation stays one filter, since all
its values are excluded together. -/
def toLabels (negated : Bool) : List Recovered → List LabelFilter
  | [] => []
  | [r] => [r.toLabel negated]
  | r :: rs =>
    if negated then
      [.regex r.name (Text.join "|" ((r :: rs).map fun s => "(" ++ s.value ++ ")")) true]
    else (r :: rs).map (·.toLabel false)

end Recovered

/-- The label filters that say the same of the fields after the `json` stage, one for each value,
if every value can be stated that way. -/
def LineFilter.toLabels? (f : LineFilter) : Option (List LabelFilter) :=
  if f.values.isEmpty then some [.text f.key "" (!f.negated)]
  else if f.values.all fun v => v.form == .atLeast then
    f.values.mapM fun v => (LabelFilter.atLeast f.key v.text).toOption
  else
    (f.values.mapM fun v => Recovered.first? (f.fragment v).toList).map
      (Recovered.toLabels f.negated)

end FlowConsole.LogQL
