import FlowConsole.LogQL.Flow
import FlowConsole.Proofs.LogQL.Scanning

/-!
# The tokens of flow queries

Every part of a flow query is written as the text of tokens, and so is the whole query
(`FlowQuery.body_eq`). The literals of these tokens are the values of its label filters and the
bodies of its line filters (`FlowQuery.literalsOf_tokens`).
-/

open FlowConsole.Text (Consists)

namespace FlowConsole.LogQL

/-! ### Lists of tokens -/

/-- No tokens have no text. -/
@[simp] theorem textOf_nil : textOf [] = "" := rfl

/-- The text of a first token comes before that of the others. -/
@[simp] theorem textOf_cons (t : Token) (ts : List Token) :
    textOf (t :: ts) = t.text ++ textOf ts := by
  rw [textOf, List.map_cons, String.join_cons, textOf]

/-- Texts of tokens are appended as the tokens are. -/
@[simp] theorem textOf_append (ts us : List Token) :
    textOf (ts ++ us) = textOf ts ++ textOf us := by
  rw [textOf, List.map_append, String.join_append, textOf, textOf]

/-- Texts of lists of tokens are joined as the lists are. -/
theorem textOf_flatMap {α : Type} (xs : List α) (f : α → List Token) :
    textOf (xs.flatMap f) = String.join (xs.map fun x => textOf (f x)) := by
  induction xs with
  | nil => rfl
  | cons x xs ih => rw [List.flatMap_cons, textOf_append, ih, List.map_cons, String.join_cons]

/-- No tokens have no literals. -/
@[simp] theorem literalsOf_nil : literalsOf [] = [] := rfl

/-- Code is no literal. -/
@[simp] theorem literalsOf_code (s : String) (ts : List Token) :
    literalsOf (.code s :: ts) = literalsOf ts := rfl

/-- Literals of tokens are appended as the tokens are. -/
@[simp] theorem literalsOf_append (ts us : List Token) :
    literalsOf (ts ++ us) = literalsOf ts ++ literalsOf us := List.filterMap_append

/-- Literals of lists of tokens are appended as the lists are. -/
theorem literalsOf_flatMap {α : Type} (xs : List α) (f : α → List Token) :
    literalsOf (xs.flatMap f) = xs.flatMap fun x => literalsOf (f x) := List.filterMap_flatMap

/-- Lists of tokens in order, with the code `sep` between neighbours. -/
def joinTokens (sep : String) : List (List Token) → List Token
  | [] => []
  | [ts] => ts
  | ts :: us :: rest => ts ++ .code sep :: joinTokens sep (us :: rest)

/-- The text of joined lists of tokens. -/
theorem textOf_joinTokens (sep : String) (xs : List (List Token)) :
    textOf (joinTokens sep xs) = Text.join sep (xs.map textOf) := by
  induction xs with
  | nil => rfl
  | cons ts rest ih =>
    cases rest with
    | nil => rfl
    | cons us rest =>
      rw [joinTokens, textOf_append, textOf_cons, ih, Token.text, List.map_cons, List.map_cons,
        List.map_cons, Text.join, String.append_assoc]

/-- The literals of joined lists of tokens. -/
theorem literalsOf_joinTokens (sep : String) (xs : List (List Token)) :
    literalsOf (joinTokens sep xs) = xs.flatMap literalsOf := by
  induction xs with
  | nil => rfl
  | cons ts rest ih =>
    cases rest with
    | nil => rw [joinTokens, List.flatMap_cons, List.flatMap_nil, List.append_nil]
    | cons us rest =>
      rw [joinTokens, literalsOf_append, literalsOf_code, ih]
      rfl

/-! ### The tokens of the parts -/

/-- The tokens of a label filter. -/
def LabelFilter.tokens (f : LabelFilter) : List Token :=
  .code (f.key ++ f.operator.sign) ::
    match f.form with
    | .number => [.code f.value]
    | .text => [.quoted f.value]
    | .address => [.code "ip(", .bare f.value, .code ")"]
    | .regex => [.raw f.value]

/-- The value of a label filter, unless it is a number and so no literal. -/
def LabelFilter.literal? (f : LabelFilter) : Option String :=
  if f.form = .number then none else some f.value

/-- A label filter is the text of its tokens. -/
theorem LabelFilter.render_eq (f : LabelFilter) : f.render = textOf f.tokens := by
  rw [render, valueText, tokens]
  cases f.form <;> simp [Token.text, String.append_assoc]
  rfl

/-- Label filters are the texts of their tokens. -/
theorem LabelFilter.map_render (fs : List LabelFilter) :
    fs.map LabelFilter.render = (fs.map LabelFilter.tokens).map textOf := by
  rw [List.map_map]
  exact List.map_congr_left fun f _ => f.render_eq

/-- The literal of a label filter is its only one. -/
theorem LabelFilter.literalsOf_tokens (f : LabelFilter) :
    literalsOf f.tokens = f.literal?.toList := by
  rw [tokens, literal?]
  cases f.form <;> rfl

/-- The tokens of a stage that searches lines. -/
def LineFilter.stageTokens (operator body : String) : List Token := [.code operator, .raw body]

/-- The tokens of a line filter. -/
def LineFilter.tokens (f : LineFilter) : List Token :=
  if f.negated then
    (if !f.allowEmpty && !f.values.isEmpty then stageTokens "|~" f.keyPattern else []) ++
      stageTokens "!~" f.body
  else stageTokens "|~" f.body

/-- The bodies of a line filter: what it asks for, after the field itself where it must be there. -/
def LineFilter.bodies (f : LineFilter) : List String :=
  (if f.negated && (!f.allowEmpty && !f.values.isEmpty) then [f.keyPattern] else []) ++ [f.body]

/-- A stage is the text of its tokens. -/
theorem LineFilter.textOf_stageTokens (operator body : String) :
    textOf (stageTokens operator body) = stage operator body := by
  rw [stageTokens, stage, textOf_cons, textOf_cons, textOf_nil, String.append_empty,
    Token.text, Token.text, String.append_assoc, String.append_assoc, String.append_assoc]

/-- A line filter is the text of its tokens. -/
theorem LineFilter.render_eq (f : LineFilter) : f.render = textOf f.tokens := by
  rw [render, tokens]
  split
  · rw [textOf_append, textOf_stageTokens]
    split
    · rw [textOf_stageTokens]
    · rw [textOf_nil]
  · rw [textOf_stageTokens]

/-- The literals of a line filter are its bodies. -/
theorem LineFilter.literalsOf_tokens (f : LineFilter) : literalsOf f.tokens = f.bodies := by
  rw [tokens, bodies]
  cases f.negated with
  | false => rfl
  | true => cases !f.allowEmpty && !f.values.isEmpty <;> rfl

/-- The tokens of a clause. -/
def Clause.tokens (c : Clause) : List Token :=
  match c.filters with
  | [f] => f.tokens
  | fs =>
    .code "(" :: joinTokens (if c.anyOf then " or " else " and ") (fs.map LabelFilter.tokens) ++
      [.code ")"]

private theorem textOf_parenthesized (sep : String) (fs : List LabelFilter) :
    textOf (.code "(" :: joinTokens sep (fs.map LabelFilter.tokens) ++ [.code ")"]) =
      "(" ++ Text.join sep (fs.map LabelFilter.render) ++ ")" := by
  rw [textOf_append, textOf_cons, textOf_joinTokens, ← LabelFilter.map_render]
  simp [Token.text]

/-- A clause is the text of its tokens. -/
theorem Clause.render_eq (c : Clause) : c.render = textOf c.tokens := by
  obtain ⟨anyOf, filters⟩ := c
  cases filters with
  | nil => exact (textOf_parenthesized _ []).symm
  | cons f rest =>
    cases rest with
    | nil => exact f.render_eq
    | cons g rest => exact (textOf_parenthesized _ (f :: g :: rest)).symm

/-- The literals of a clause are those of its filters. -/
theorem Clause.literalsOf_tokens (c : Clause) :
    literalsOf c.tokens = c.filters.filterMap LabelFilter.literal? := by
  rw [tokens]
  split
  · next f hf =>
    rw [hf, f.literalsOf_tokens, List.filterMap_cons, List.filterMap_nil]
    cases f.literal? <;> rfl
  · rw [literalsOf_append, literalsOf_code, literalsOf_joinTokens, List.flatMap_map,
      literalsOf_code, literalsOf_nil, List.append_nil]
    simp only [LabelFilter.literalsOf_tokens]
    exact (List.filterMap_eq_flatMap_toList _ _).symm

/-! ### The tokens of a query -/

namespace FlowQuery

/-- The tokens of the stream selector. -/
def selectorTokens (labels : List LabelFilter) : List Token :=
  .code "\x7b" :: joinTokens "," (labels.map LabelFilter.tokens) ++ [.code "\x7d"]

/-- The line filters of the matches are written as one. -/
def joinsLines (q : FlowQuery) : Bool := q.anyLine && 1 < q.lines.length

/-- The alternation of the line filters of the matches. -/
def joinedBody (q : FlowQuery) : String :=
  Text.join "|" (q.lines.map fun f => "(" ++ f.body ++ ")")

/-- The tokens of the line filters of the matches. -/
def lineTokens (q : FlowQuery) : List Token :=
  if q.joinsLines then LineFilter.stageTokens "|~" q.joinedBody
  else q.lines.flatMap LineFilter.tokens

/-- The tokens of the `json` stage and the clauses after it. -/
def clauseTokens (q : FlowQuery) (forceJson : Bool) : List Token :=
  (if forceJson || !q.clauses.isEmpty then [.code "|json"] else []) ++
    if q.clauses.isEmpty then []
    else .code "|" ::
      joinTokens (if q.anyClause then " or " else "|") (q.clauses.map Clause.tokens)

/-- The tokens of a query. -/
def tokens (q : FlowQuery) (forceJson : Bool) : List Token :=
  selectorTokens (q.fixedLabels ++ q.labels) ++ q.fixedLines.flatMap LineFilter.tokens ++
    q.lineTokens ++ q.clauseTokens forceJson

/-- The values of the label filters and the bodies of the line filters of a query. -/
def literals (q : FlowQuery) : List String :=
  (q.fixedLabels ++ q.labels).filterMap LabelFilter.literal? ++
    q.fixedLines.flatMap LineFilter.bodies ++
    (if q.joinsLines then [q.joinedBody] else q.lines.flatMap LineFilter.bodies) ++
    q.clauses.flatMap fun c => c.filters.filterMap LabelFilter.literal?

/-- The selector of labels is the text of its tokens. -/
theorem selector_eq (labels : List LabelFilter) (h : labels ≠ []) :
    selector labels = .ok (textOf (selectorTokens labels)) := by
  rw [selector, if_neg (by simpa using h), selectorTokens, textOf_append, textOf_cons,
    textOf_joinTokens, ← LabelFilter.map_render]
  simp [Token.text]

private theorem join_render_lines (fs : List LineFilter) :
    String.join (fs.map LineFilter.render) = textOf (fs.flatMap LineFilter.tokens) := by
  rw [textOf_flatMap]
  exact congrArg String.join (List.map_congr_left fun f _ => f.render_eq)

/-- The line filters of matches are the text of their tokens. -/
theorem renderLines_eq (q : FlowQuery) : q.renderLines = textOf q.lineTokens := by
  rw [renderLines, lineTokens, joinsLines]
  split
  · rw [LineFilter.textOf_stageTokens, joinedBody]
  · exact join_render_lines q.lines

/-- The clauses are the text of their tokens. -/
theorem renderClauses_eq (q : FlowQuery) (forceJson : Bool) :
    q.renderClauses forceJson = textOf (q.clauseTokens forceJson) := by
  have hmap : q.clauses.map Clause.render = (q.clauses.map Clause.tokens).map textOf := by
    rw [List.map_map]
    exact List.map_congr_left fun c _ => c.render_eq
  rw [renderClauses, clauseTokens, textOf_append]
  congr 1
  · split <;> rfl
  · split
    · rfl
    · rw [textOf_cons, textOf_joinTokens, hmap]
      rfl

/-- The text of a query that selects streams is the text of its tokens. -/
theorem body_eq (q : FlowQuery) (forceJson : Bool) (h : q.fixedLabels ≠ []) :
    q.body forceJson = .ok (textOf (q.tokens forceJson)) := by
  rw [body, selector_eq _ (List.append_ne_nil_of_left_ne_nil h _)]
  change Except.ok _ = _
  rw [tokens, textOf_append, textOf_append, textOf_append, join_render_lines, renderLines_eq,
    renderClauses_eq]

private theorem literalsOf_lineTokens (q : FlowQuery) :
    literalsOf q.lineTokens =
      if q.joinsLines then [q.joinedBody] else q.lines.flatMap LineFilter.bodies := by
  rw [lineTokens]
  split
  · rfl
  · rw [literalsOf_flatMap]
    simp only [LineFilter.literalsOf_tokens]

private theorem literalsOf_clauseTokens (q : FlowQuery) (forceJson : Bool) :
    literalsOf (q.clauseTokens forceJson) =
      q.clauses.flatMap fun c => c.filters.filterMap LabelFilter.literal? := by
  have hjson :
      literalsOf (if forceJson || !q.clauses.isEmpty then [.code "|json"] else []) = [] := by
    split <;> rfl
  rw [clauseTokens, literalsOf_append, hjson, List.nil_append]
  split
  · next h => rw [List.isEmpty_iff.mp h]; rfl
  · rw [literalsOf_code, literalsOf_joinTokens, List.flatMap_map]
    simp only [Clause.literalsOf_tokens]

/-- The literals of the tokens of a query are the literals of the query. -/
theorem literalsOf_tokens (q : FlowQuery) (forceJson : Bool) :
    literalsOf (q.tokens forceJson) = q.literals := by
  rw [tokens, literals, literalsOf_append, literalsOf_append, literalsOf_append,
    literalsOf_lineTokens, literalsOf_clauseTokens, selectorTokens, literalsOf_append,
    literalsOf_code, literalsOf_joinTokens, literalsOf_flatMap, List.flatMap_map, literalsOf_code,
    literalsOf_nil, List.append_nil]
  simp only [LabelFilter.literalsOf_tokens, LineFilter.literalsOf_tokens]
  rw [List.filterMap_eq_flatMap_toList]

end FlowQuery

end FlowConsole.LogQL
