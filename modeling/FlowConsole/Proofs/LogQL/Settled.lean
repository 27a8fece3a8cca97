import Mathlib.Logic.Function.Iterate
import FlowConsole.Proofs.LogQL.AnyMatch

/-!
# Settled queries

A query is settled if it is one for any of its matches already: turning it into such a query leaves
it as it is (`matchAny_eq_self_iff`). Whatever a query looks like, it is settled once it is turned
(`isSettled_matchAny`), so turning it again, however many times, changes neither its text nor its
address (`body_iterate_matchAny`).
-/

namespace FlowConsole.LogQL.FlowQuery

/-- At most one filter comes from matches, or all that do are stated after the `json` stage. -/
def IsUniform (q : FlowQuery) : Prop := q.filterCount ≤ 1 ∨ (q.labels = [] ∧ q.lines = [])

/-- All filters that come from matches are searches of lines, none of them negated. -/
def IsPositiveSearch (q : FlowQuery) : Prop :=
  q.labels = [] ∧ q.clauseSize = 0 ∧ ∀ f ∈ q.lines, f.negated = false

/-- One clause is enough where the clauses are all there is, and one line filter is enough where
several of them are. -/
def IsSettled (q : FlowQuery) : Prop :=
  (q.IsUniform ∧ q.anyClause = true) ∨ (¬q.IsUniform ∧ q.IsPositiveSearch ∧ q.anyLine = true)

variable {q : FlowQuery}

/-! ### The ways of turning a query -/

/-- A uniform query is turned by its clauses: one of them is enough. -/
theorem matchAny_of_isUniform (h : q.IsUniform) : q.matchAny = { q with anyClause := true } := by
  rw [matchAny]
  exact if_pos h

/-- A query that only searches lines is turned by its line filters: one of them is enough. -/
theorem matchAny_of_isPositiveSearch (hu : ¬q.IsUniform) (h : q.IsPositiveSearch) :
    q.matchAny = { q with anyLine := true } := by
  have hall : (q.lines.all fun f => !f.negated) = true :=
    List.all_eq_true.mpr fun f hf => by rw [h.2.2 f hf]; rfl
  rw [matchAny]
  exact (if_neg hu).trans (if_pos ⟨h.1, h.2.1, hall⟩)

/-- A query with filters of different kinds, or with a negated search, states them all in clauses.
-/
theorem matchAny_eq_of_mixed (hu : ¬q.IsUniform) (h : ¬q.IsPositiveSearch) :
    q.matchAny = { q with
      labels := []
      lines := []
      anyLine := false
      clauses := q.labels.map .single ++ q.lines.flatMap (lifted q.catalog) ++ q.clauses
      anyClause := true } := by
  have hmixed : ¬(q.labels = [] ∧ q.clauseSize = 0 ∧ (q.lines.all fun f => !f.negated) = true) := by
    rintro ⟨hlabels, hclauses, hall⟩
    refine h ⟨hlabels, hclauses, fun f hf => ?_⟩
    have := List.all_eq_true.mp hall f hf
    rwa [Bool.not_eq_true'] at this
  rw [matchAny]
  exact (if_neg hu).trans (if_neg hmixed)

/-- A query with filters of different kinds, or with a negated search, has clauses only. -/
theorem matchAny_of_mixed (hu : ¬q.IsUniform) (h : ¬q.IsPositiveSearch) :
    q.matchAny.labels = [] ∧ q.matchAny.lines = [] ∧ q.matchAny.anyClause = true := by
  rw [matchAny_eq_of_mixed hu h]
  exact ⟨rfl, rfl, rfl⟩

/-! ### Turning a query again -/

/-- Whatever way a query is turned, it is settled then. -/
theorem isSettled_matchAny (q : FlowQuery) : q.matchAny.IsSettled := by
  by_cases hu : q.IsUniform
  · rw [matchAny_of_isUniform hu]
    exact .inl ⟨hu, rfl⟩
  · by_cases hp : q.IsPositiveSearch
    · rw [matchAny_of_isPositiveSearch hu hp]
      exact .inr ⟨hu, hp, rfl⟩
    · obtain ⟨hlabels, hlines, hany⟩ := matchAny_of_mixed hu hp
      exact .inl ⟨.inr ⟨hlabels, hlines⟩, hany⟩

/-- Turning a query leaves it as it is exactly if it is settled. -/
theorem matchAny_eq_self_iff : q.matchAny = q ↔ q.IsSettled := by
  constructor
  · intro h
    rw [← h]
    exact isSettled_matchAny q
  · rintro (⟨hu, hany⟩ | ⟨hu, hp, hany⟩)
    · rw [matchAny_of_isUniform hu, ← hany]
    · rw [matchAny_of_isPositiveSearch hu hp, ← hany]

/-- A query that has been turned is not changed by turning it again. -/
theorem matchAny_matchAny (q : FlowQuery) : q.matchAny.matchAny = q.matchAny :=
  matchAny_eq_self_iff.mpr (isSettled_matchAny q)

/-- Turned any number of times more, a query is what it is turned once. -/
theorem iterate_matchAny (q : FlowQuery) (n : Nat) : matchAny^[n + 1] q = q.matchAny := by
  rw [Function.iterate_succ_apply]
  exact Function.iterate_fixed q.matchAny_matchAny n

/-! ### Texts and addresses -/

/-- A query that selects streams has a text and an address. -/
theorem exists_body_url (h : q.fixedLabels ≠ []) (forceJson : Bool) (base : String) :
    ∃ text address, q.body forceJson = .ok text ∧ q.url base = .ok address := by
  have hurl : (q.url base).isOk = true := by
    rw [url, body_eq q false h]
    rfl
  obtain ⟨address, haddress⟩ := Outcome.exists_of_isOk hurl
  exact ⟨_, address, body_eq q forceJson h, haddress⟩

/-- The query of a group has a text and an address once it is turned into one for any of the
matches, and they stay the same however many times more it is turned. -/
theorem body_iterate_matchAny {catalog : Catalog} {options : FlowOptions} {g : Filter.Group}
    (hq : ofGroup catalog options g = .ok q) (forceJson : Bool) (base : String) :
    ∃ text address, ∀ n, (matchAny^[n + 1] q).body forceJson = .ok text ∧
      (matchAny^[n + 1] q).url base = .ok address := by
  have hselects : q.matchAny.fixedLabels ≠ [] := by
    rw [fixedLabels_matchAny, (gathers_ofGroup hq).fixedLabels]
    exact List.cons_ne_nil _ _
  obtain ⟨text, address, htext, haddress⟩ := exists_body_url hselects forceJson base
  refine ⟨text, address, fun n => ?_⟩
  rw [iterate_matchAny]
  exact ⟨htext, haddress⟩

/-- A group with filters of several kinds: a label, a search and an address. -/
def severalKinds : Filter.Group :=
  [{ key := Field.sourceNamespace, values := "ns1" }, { key := "Port", values := "80" },
    { key := "Addr", values := "10.0.0.1" }]

/-- The queries of a group with filters of several kinds. -/
theorem body_iterate_matchAny_addresses :
    ∃ q, ofGroup namespaceCatalog {} severalKinds = .ok q ∧
      ∃ text address, ∀ n, (matchAny^[n + 1] q).body true = .ok text ∧
        (matchAny^[n + 1] q).url "http://loki:3100/" = .ok address := by
  have hok : (ofGroup namespaceCatalog {} severalKinds).isOk = true := by decide +kernel
  obtain ⟨q, hq⟩ := Outcome.exists_of_isOk hok
  exact ⟨q, hq, body_iterate_matchAny hq true "http://loki:3100/"⟩

end FlowConsole.LogQL.FlowQuery
