import FlowConsole.Filter.Basic
import FlowConsole.LogQL.Options
import FlowConsole.LogQL.Recover

/-!
# Flow queries

A flow query asks the log store for the records that satisfy a group of matches. Each match becomes
a comparison in the stream selector, a search of the raw line, or a comparison after the `json`
stage, by what the catalog knows of its field. The fixed conditions, which come from the options
and not from matches, are kept apart: they hold for every record, also when the query is turned
into one for records that satisfy any of the matches.
-/

namespace FlowConsole.LogQL

/-- Label filters after the `json` stage, composed with *or* or with *and*. -/
structure Clause where
  anyOf : Bool
  filters : List LabelFilter
  deriving DecidableEq, Repr

namespace Clause

/-- The clause of one filter. -/
def single (f : LabelFilter) : Clause := ⟨false, [f]⟩

/-- The text of a clause; that of several filters stands in parentheses. -/
def render (c : Clause) : String :=
  match c.filters with
  | [f] => f.render
  | fs => "(" ++ Text.join (if c.anyOf then " or " else " and ") (fs.map LabelFilter.render) ++ ")"

end Clause

/-- A query for flow records. -/
structure FlowQuery where
  catalog : Catalog
  options : FlowOptions
  fixedLabels : List LabelFilter
  labels : List LabelFilter := []
  fixedLines : List LineFilter
  lines : List LineFilter := []
  /-- One line filter is enough. -/
  anyLine : Bool := false
  clauses : List Clause := []
  /-- One clause is enough. -/
  anyClause : Bool := false

namespace FlowQuery

/-- The selector of the streams that hold flows. -/
def appFilter : LabelFilter := .text "app" "netobserv-flowcollector" false

/-- A number other than zero. -/
def nonZero : String := "[1-9][0-9]*"

/-- The atom of the empty text. -/
def emptyAtom : String := "\"\""

/-- The line filter of a treatment of duplicates. -/
def dedupLines : Dedup → List LineFilter
  | .none => []
  | .keepUnique => [.flag Field.duplicate false false]
  | .dropDuplicates => [.flag Field.duplicate true true]

/-- The comparison of the record type, where it is a label. -/
def recordTypeLabel (t : RecordType) : LabelFilter :=
  match t.values with
  | [value] => .text Field.recordType value false
  | values => .regex Field.recordType (Text.join "|" values) false

/-- The search for the record type, where it is no label. -/
def recordTypeLine (c : Catalog) (t : RecordType) : LineFilter :=
  .exact Field.recordType t.values (c.needsStrictKey Field.recordType)

/-- The line filters of a packet loss. -/
def packetLossLines (c : Catalog) : PacketLoss → List LineFilter
  | .dropped =>
    [.number Field.packets "0" (c.needsStrictKey Field.packets),
      .regex Field.droppedPackets nonZero (c.needsStrictKey Field.droppedPackets)]
  | .hasDrops => [.regex Field.droppedPackets nonZero (c.needsStrictKey Field.droppedPackets)]
  | .sent => [.regex Field.packets nonZero (c.needsStrictKey Field.packets)]
  | .all => []

/-- The query of the options, without matches. -/
def ofOptions (catalog : Catalog) (options : FlowOptions) : FlowQuery :=
  let types := options.recordType.toList
  let isLabel := catalog.isLabel Field.recordType
  { catalog
    options
    fixedLabels := appFilter :: if isLabel then types.map recordTypeLabel else []
    fixedLines :=
      dedupLines options.dedup ++
        (if isLabel then [] else types.map (recordTypeLine catalog)) ++
        packetLossLines catalog options.packetLoss }

/-- Adds a filter to the labels of matches. -/
def addLabel (q : FlowQuery) (f : LabelFilter) : FlowQuery := { q with labels := q.labels ++ [f] }

/-- Adds a filter to the line filters of matches. -/
def addLine (q : FlowQuery) (f : LineFilter) : FlowQuery := { q with lines := q.lines ++ [f] }

/-- Adds a clause to those of matches. -/
def addClause (q : FlowQuery) (c : Clause) : FlowQuery := { q with clauses := q.clauses ++ [c] }

/-- The fields that a key stands for: a source and a destination field, or the key itself. -/
def fieldsOf (c : Catalog) (key : String) : List String :=
  match c.pair? key with
  | some (src, dst) => [src, dst]
  | none => [key]

/-- The key stands for a source and a destination field one of which is a label. -/
def isLabelledPair (c : Catalog) (key : String) : Bool :=
  (c.pair? key).any fun p => c.isLabel p.1 || c.isLabel p.2

/-- The line filter of a match. -/
def lineOf (c : Catalog) (m : Filter.Match) : Except QueryError LineFilter :=
  LineFilter.ofAtoms m.key m.atoms (.of c m.key) (c.needsStrictKey m.key) m.negated m.atLeast

/-- Adds a match. A clause for several fields or values is an alternative if the match is positive
and a conjunction if it is negated. Fields without a value are left out of records, so only the
`json` stage can compare with the empty text. -/
def addMatch (q : FlowQuery) (m : Filter.Match) : Except QueryError FlowQuery :=
  let c := q.catalog
  let fields := fieldsOf c m.key
  if m.regex then
    let f := LabelFilter.regex m.key m.values m.negated
    .ok (if c.isLabel m.key then q.addLabel f else q.addClause (.single f))
  else if m.atLeast then (lineOf c m).map q.addLine
  else if c.isLabel m.key then .ok (q.addLabel (.ofAtoms m.key m.atoms m.negated))
  else if isLabelledPair c m.key then
    .ok (q.addClause ⟨!m.negated, fields.map (LabelFilter.ofAtoms · m.atoms m.negated)⟩)
  else if c.isAddress m.key then
    .ok (q.addClause ⟨!m.negated, fields.flatMap fun field =>
      m.atoms.map fun atom => .address field (Atom.unquoted atom) m.negated⟩)
  else if m.atoms.contains emptyAtom then
    .ok (q.addClause ⟨!m.negated, fields.map (LabelFilter.anyOf · m.atoms m.negated)⟩)
  else (lineOf c m).map q.addLine

/-- Adds the matches in order up to the first that is refused; those before it stay added. -/
def addGroup (q : FlowQuery) : List Filter.Match → FlowQuery × Option QueryError
  | [] => (q, none)
  | m :: ms =>
    match q.addMatch m with
    | .ok q => q.addGroup ms
    | .error e => (q, some e)

/-- The query of the options and the matches of a group. -/
def ofGroup (catalog : Catalog) (options : FlowOptions) (g : Filter.Group) :
    Except QueryError FlowQuery :=
  g.foldlM addMatch (ofOptions catalog options)

/-- Keeps only records that have the field. -/
def requireField (q : FlowQuery) (key : String) : FlowQuery :=
  { q with fixedLines := q.fixedLines ++ [.presence key (q.catalog.needsStrictKey key)] }

/-- The clause of a label filter that stands for a line filter. A name that stands for a source and
a destination field, both of which the line filter finds, is spelled out. -/
def liftedClause (c : Catalog) (negated : Bool) (f : LabelFilter) : Clause :=
  match c.pair? f.key with
  | some (src, dst) => ⟨!negated, [{ f with key := src }, { f with key := dst }]⟩
  | none => .single f

/-- The clauses that say the same as a line filter; none if there is no way to say it. -/
def lifted (c : Catalog) (f : LineFilter) : List Clause :=
  (f.toLabels?.getD []).map (liftedClause c f.negated)

/-- The number of label filters after the `json` stage. -/
def clauseSize (q : FlowQuery) : Nat := (q.clauses.flatMap fun c => c.filters).length

/-- Turns the query into one for records that satisfy any of the matches. Where the matches are of
one kind, that kind is marked; otherwise all are stated after the `json` stage. -/
def matchAny (q : FlowQuery) : FlowQuery :=
  if q.labels.length + q.lines.length + q.clauseSize ≤ 1 ∨ (q.labels = [] ∧ q.lines = []) then
    { q with anyClause := true }
  else if q.labels = [] ∧ q.clauseSize = 0 ∧ q.lines.all fun f => !f.negated then
    { q with anyLine := true }
  else
    { q with
      labels := []
      lines := []
      anyLine := false
      clauses := q.labels.map .single ++ q.lines.flatMap (lifted q.catalog) ++ q.clauses
      anyClause := true }

/-- The stream selector. A query without one is refused by the store. -/
def selector (labels : List LabelFilter) : Except QueryError String :=
  if labels.isEmpty then .error .noSelector
  else .ok ("\x7b" ++ Text.join "," (labels.map LabelFilter.render) ++ "\x7d")

/-- The line filters of the matches. -/
def renderLines (q : FlowQuery) : String :=
  if q.anyLine && 1 < q.lines.length then
    LineFilter.stage "|~" (Text.join "|" (q.lines.map fun f => "(" ++ f.body ++ ")"))
  else String.join (q.lines.map LineFilter.render)

/-- The `json` stage and the label filters after it. -/
def renderClauses (q : FlowQuery) (forceJson : Bool) : String :=
  (if forceJson || !q.clauses.isEmpty then "|json" else "") ++
    if q.clauses.isEmpty then ""
    else "|" ++ Text.join (if q.anyClause then " or " else "|") (q.clauses.map Clause.render)

/-- The text of the query. -/
def body (q : FlowQuery) (forceJson : Bool) : Except QueryError String := do
  let streams ← selector (q.fixedLabels ++ q.labels)
  return streams ++ String.join (q.fixedLines.map LineFilter.render) ++ q.renderLines ++
    q.renderClauses forceJson

/-- The address that answers the query, at the store whose address starts with `base`. -/
def url (q : FlowQuery) (base : String) : Except QueryError String := do
  let body ← q.body false
  return queryRange (Text.withoutTrailingSlashes base) ++ body ++
    windowParameters q.options.start q.options.finish ++
    parameter "limit" (q.options.limit.map toString)

end FlowQuery

end FlowConsole.LogQL
