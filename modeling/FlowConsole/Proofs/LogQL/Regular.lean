import FlowConsole.Proofs.LogQL.Filters

/-!
# Regular flow queries

A query that selects streams and whose filters are regular is written with regular tokens. So it
scans to its literals (`FlowQuery.Regular.scan`), unless it compares with an address that holds a
quote, since addresses are written between quotes without escapes (`FlowQuery.Regular.scan_ne`).
-/

open FlowConsole.Text (Consists)

namespace FlowConsole.LogQL

open Token (isCodeChar isLiteralChar)

/-! ### Properties of all tokens -/

section

variable {P : Token → Prop}

private theorem forall_joinTokens {sep : String} (hsep : P (.code sep)) (xs : List (List Token)) :
    (∀ t ∈ joinTokens sep xs, P t) ↔ ∀ ts ∈ xs, ∀ t ∈ ts, P t := by
  induction xs with
  | nil => simp [joinTokens]
  | cons ts rest ih =>
    cases rest with
    | nil => simp [joinTokens]
    | cons us rest =>
      rw [joinTokens, List.forall_mem_append, List.forall_mem_cons, and_iff_right hsep, ih,
        List.forall_mem_cons (a := ts)]

private theorem forall_joined {α : Type} {sep : String} (hsep : P (.code sep)) (xs : List α)
    (tokens : α → List Token) :
    (∀ t ∈ joinTokens sep (xs.map tokens), P t) ↔ ∀ x ∈ xs, ∀ t ∈ tokens x, P t := by
  rw [forall_joinTokens hsep, List.forall_mem_map]

variable (hcode : ∀ s, Consists isCodeChar s → P (.code s))

include hcode

private theorem forall_enclosed {start finish : String} (hs : Consists isCodeChar start)
    (hf : Consists isCodeChar finish) (ts : List Token) :
    (∀ t ∈ Token.code start :: ts ++ [.code finish], P t) ↔ ∀ t ∈ ts, P t := by
  rw [List.cons_append, List.forall_mem_cons, List.forall_mem_append, List.forall_mem_singleton,
    and_iff_right (hcode start hs), and_iff_left (hcode finish hf)]

private theorem forall_clauseTokens (c : Clause) :
    (∀ t ∈ c.tokens, P t) ↔ ∀ f ∈ c.filters, ∀ t ∈ f.tokens, P t := by
  obtain ⟨anyOf, filters⟩ := c
  have hsep : Consists isCodeChar (if anyOf then " or " else " and ") := by
    cases anyOf <;> decide
  have hmany : ∀ fs : List LabelFilter,
      (∀ t ∈ Token.code "(" :: joinTokens (if anyOf then " or " else " and ")
          (fs.map LabelFilter.tokens) ++ [.code ")"], P t) ↔
        ∀ f ∈ fs, ∀ t ∈ f.tokens, P t := by
    intro fs
    rw [forall_enclosed hcode (by decide) (by decide), forall_joined (hcode _ hsep)]
  cases filters with
  | nil => exact hmany []
  | cons f rest =>
    cases rest with
    | nil =>
      change (∀ t ∈ f.tokens, P t) ↔ ∀ g ∈ [f], ∀ t ∈ g.tokens, P t
      rw [List.forall_mem_singleton]
    | cons g rest => exact hmany (f :: g :: rest)

end

namespace FlowQuery

/-- The label filters of a query. -/
def labelFilters (q : FlowQuery) : List LabelFilter :=
  q.fixedLabels ++ q.labels ++ q.clauses.flatMap Clause.filters

/-- The line filters of a query. -/
def lineFilters (q : FlowQuery) : List LineFilter := q.fixedLines ++ q.lines

/-- The query selects streams, and its filters are regular. -/
structure Regular (q : FlowQuery) : Prop where
  selects : q.fixedLabels ≠ []
  labels : ∀ f ∈ q.labelFilters, f.Regular
  lines : ∀ f ∈ q.lineFilters, f.Regular

/-- The query compares with an address that holds a quote. -/
def Broken (q : FlowQuery) : Prop := ∃ f ∈ q.labelFilters, f.Broken

variable {q : FlowQuery}

-- A property of all code and of the tokens of the line filters holds of all tokens if it holds of
-- those of the label filters.
private theorem forall_tokens {P : Token → Prop}
    (hcode : ∀ s, Consists isCodeChar s → P (.code s))
    (hfixed : ∀ t ∈ q.fixedLines.flatMap LineFilter.tokens, P t) (hlines : ∀ t ∈ q.lineTokens, P t)
    (forceJson : Bool) :
    (∀ t ∈ q.tokens forceJson, P t) ↔ ∀ f ∈ q.labelFilters, ∀ t ∈ f.tokens, P t := by
  have hselector : (∀ t ∈ selectorTokens (q.fixedLabels ++ q.labels), P t) ↔
      ∀ f ∈ q.fixedLabels ++ q.labels, ∀ t ∈ f.tokens, P t := by
    rw [selectorTokens, forall_enclosed hcode (by decide) (by decide),
      forall_joined (hcode "," (by decide))]
  have hjson : ∀ t ∈ if forceJson || !q.clauses.isEmpty then [Token.code "|json"] else [],
      P t := by
    split
    · exact List.forall_mem_singleton.mpr (hcode _ (by decide))
    · exact List.forall_mem_nil _
  have hclauses : (∀ t ∈ q.clauseTokens forceJson, P t) ↔
      ∀ f ∈ q.clauses.flatMap Clause.filters, ∀ t ∈ f.tokens, P t := by
    have hsep : Consists isCodeChar (if q.anyClause then " or " else "|") := by
      cases q.anyClause <;> decide
    rw [clauseTokens, List.forall_mem_append, and_iff_right hjson, List.forall_mem_flatMap]
    split
    · next h =>
      rw [List.isEmpty_iff.mp h]
      simp
    · rw [List.forall_mem_cons, and_iff_right (hcode _ (by decide)), forall_joined (hcode _ hsep)]
      simp only [forall_clauseTokens hcode]
  rw [tokens, List.forall_mem_append, List.forall_mem_append, List.forall_mem_append, hselector,
    hclauses, and_iff_left hlines, and_iff_left hfixed, labelFilters, ← List.forall_mem_append]

private theorem lineTokens_of_regular (h : q.Regular) : ∀ t ∈ q.lineTokens, t.Regular := by
  have hlines : ∀ f ∈ q.lines, f.Regular := fun f hf => h.lines f (List.mem_append_right _ hf)
  rw [lineTokens]
  split
  · have hbody : Consists isLiteralChar q.joinedBody := by
      apply Text.consists_join (by decide)
      intro s hs
      obtain ⟨f, hf, rfl⟩ := List.mem_map.mp hs
      exact Text.consists_append.mpr
        ⟨Text.consists_append.mpr ⟨by decide, (hlines f hf).body⟩, by decide⟩
    intro t ht
    rcases LineFilter.mem_stageTokens ht with rfl | rfl
    · exact (by decide : Consists isCodeChar "|~")
    · exact hbody
  · rw [List.forall_mem_flatMap]
    exact fun f hf => (hlines f hf).tokens

private theorem not_broken_lineTokens : ∀ t ∈ q.lineTokens, ¬t.Broken := by
  rw [lineTokens]
  split
  · intro t ht
    rcases LineFilter.mem_stageTokens ht with rfl | rfl <;> exact id
  · rw [List.forall_mem_flatMap]
    exact fun f _ => f.not_broken_tokens

/-- The tokens of a regular query are regular. -/
theorem Regular.tokens (h : q.Regular) (forceJson : Bool) :
    ∀ t ∈ q.tokens forceJson, t.Regular := by
  have hfixed : ∀ t ∈ q.fixedLines.flatMap LineFilter.tokens, t.Regular := by
    rw [List.forall_mem_flatMap]
    exact fun f hf => (h.lines f (List.mem_append_left _ hf)).tokens
  rw [forall_tokens (fun _ hs => hs) hfixed (lineTokens_of_regular h)]
  exact fun f hf => (h.labels f hf).tokens

/-- A token of a query is broken exactly if the query is. -/
theorem exists_broken_tokens (forceJson : Bool) :
    (∃ t ∈ q.tokens forceJson, t.Broken) ↔ q.Broken := by
  have hfixed : ∀ t ∈ q.fixedLines.flatMap LineFilter.tokens, ¬t.Broken := by
    rw [List.forall_mem_flatMap]
    exact fun f _ => f.not_broken_tokens
  have hall := forall_tokens (fun _ _ => id) hfixed not_broken_lineTokens forceJson
  have hiff := not_congr hall
  push Not at hiff
  rw [hiff, Broken]
  exact exists_congr fun f => and_congr_right fun _ => f.exists_broken_tokens

/-- A regular query that is not broken scans to the code of its tokens and to its literals. -/
theorem Regular.scan (h : q.Regular) (hb : ¬q.Broken) (forceJson : Bool) :
    LogQL.scan (textOf (q.tokens forceJson)) = some (codeOf (q.tokens forceJson), q.literals) := by
  have hne : ∀ t ∈ q.tokens forceJson, ¬t.Broken :=
    fun t ht hbt => hb ((exists_broken_tokens forceJson).mp ⟨t, ht, hbt⟩)
  rw [scan_text (h.tokens forceJson) hne, literalsOf_tokens]

/-- A regular query that is broken does not scan to its literals. -/
theorem Regular.scan_ne (h : q.Regular) (hb : q.Broken) (forceJson : Bool) (code : String) :
    LogQL.scan (textOf (q.tokens forceJson)) ≠ some (code, q.literals) := by
  rw [← literalsOf_tokens q forceJson]
  exact scan_text_ne (h.tokens forceJson) ((exists_broken_tokens forceJson).mpr hb) code

end FlowQuery

end FlowConsole.LogQL
