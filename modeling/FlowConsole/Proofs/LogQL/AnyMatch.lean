import Mathlib.Algebra.BigOperators.Group.List.Basic
import FlowConsole.Proofs.LogQL.Intact
import FlowConsole.Proofs.LogQL.Statable

/-!
# Queries for any of the matches

Turned into a query for any of the matches, the query of a group states its line filters after the
`json` stage, and leaves out those that cannot be stated there: searches of arrays, and numbers with
a sign or a fraction (`isUnstatable_iff_isLost`). As a rule some filter of the group remains. But if
every match is a line filter of that kind, and one of them is negated, so that they are not joined
in one pattern either, nothing remains, and the query is that for all records
(`filterCount_matchAny_pos_iff`). Such are two matches on an array, one of them negated
(`matchAny_interfaces`).
-/

namespace FlowConsole.LogQL

namespace FlowQuery

variable {q : FlowQuery}

/-! ### Filters of matches -/

/-- The clause that stands for a label filter is not empty. -/
theorem filters_liftedClause_ne_nil (c : Catalog) (negated : Bool) (f : LabelFilter) :
    (liftedClause c negated f).filters ≠ [] := by
  rw [liftedClause]
  split <;> exact List.cons_ne_nil _ _

/-- A line filter leaves nothing behind exactly if it cannot be stated. -/
theorem flatMap_lifted_eq_nil_iff (c : Catalog) (f : LineFilter) :
    (lifted c f).flatMap Clause.filters = [] ↔ f.toLabels? = none := by
  rw [lifted, List.flatMap_map, List.flatMap_eq_nil_iff]
  cases hls : f.toLabels? with
  | none => simp
  | some ls =>
    obtain ⟨l, hl⟩ := List.exists_mem_of_ne_nil ls (LineFilter.ne_nil_of_toLabels? hls)
    constructor
    · intro h
      exact absurd (h l hl) (filters_liftedClause_ne_nil c f.negated l)
    · intro h
      cases h

/-- The number of filters that come from matches. -/
def filterCount (q : FlowQuery) : Nat := q.labels.length + q.lines.length + q.clauseSize

/-- Without labels and clauses, the query has several line filters, one of them negated, and none of
them can be stated after the `json` stage. -/
structure Forgets (q : FlowQuery) : Prop where
  labels : q.labels = []
  clauses : q.clauses = []
  several : 2 ≤ q.lines.length
  negated : ∃ f ∈ q.lines, f.negated = true
  unstatable : ∀ f ∈ q.lines, f.toLabels? = none

private theorem clauses_eq_nil (hne : ∀ c ∈ q.clauses, c.filters ≠ []) (h : q.clauseSize = 0) :
    q.clauses = [] := by
  rw [clauseSize, List.length_eq_zero_iff, List.flatMap_eq_nil_iff] at h
  exact List.eq_nil_iff_forall_not_mem.mpr fun c hc => hne c hc (h c hc)

/-- A query that forgets its filters has none of them left. -/
theorem matchAny_of_forgets (h : q.Forgets) :
    q.matchAny = { q with labels := [], lines := [], anyLine := false, clauses := [],
                          anyClause := true } := by
  have hfew : ¬(q.labels.length + q.lines.length + q.clauseSize ≤ 1 ∨
      (q.labels = [] ∧ q.lines = [])) := by
    rintro (hfew | ⟨-, hlines⟩)
    · have := h.several
      omega
    · have := h.several
      rw [hlines] at this
      exact absurd this (by decide)
  have hpositive : ¬(q.labels = [] ∧ q.clauseSize = 0 ∧ q.lines.all fun f => !f.negated) := by
    rintro ⟨-, -, hall⟩
    obtain ⟨f, hf, hnegated⟩ := h.negated
    have := List.all_eq_true.mp hall f hf
    rw [hnegated] at this
    cases this
  have hlifted : q.lines.flatMap (lifted q.catalog) = [] := by
    rw [List.flatMap_eq_nil_iff]
    intro f hf
    rw [lifted, h.unstatable f hf]
    rfl
  rw [matchAny, if_neg hfew, if_neg hpositive, hlifted, h.labels, h.clauses]
  rfl

/-- The query for any of the matches has no filter of them exactly if the query forgets them. -/
theorem filterCount_matchAny_eq_zero_iff (hne : ∀ c ∈ q.clauses, c.filters ≠ [])
    (hq : 0 < q.filterCount) : q.matchAny.filterCount = 0 ↔ q.Forgets := by
  constructor
  · intro hzero
    rw [matchAny] at hzero
    split_ifs at hzero with hfew hpositive
    · exact absurd hzero (Nat.ne_of_gt hq)
    · exact absurd hzero (Nat.ne_of_gt hq)
    · -- all is stated after the `json` stage, as far as it can be
      simp only [filterCount, clauseSize, List.flatMap_append, List.length_append, filters_singles,
        List.length_nil, Nat.zero_add, Nat.add_eq_zero_iff, List.length_eq_zero_iff] at hzero
      obtain ⟨⟨hlabels, hlifted⟩, hclauses⟩ := hzero
      have hsize : q.clauseSize = 0 := List.length_eq_zero_iff.mpr hclauses
      rw [List.flatMap_assoc, List.flatMap_eq_nil_iff] at hlifted
      refine ⟨hlabels, clauses_eq_nil hne hsize, ?_, ?_, ?_⟩
      · have := not_or.mp hfew
        rw [hlabels, hsize, List.length_nil] at this
        omega
      · by_contra hnone
        apply hpositive
        refine ⟨hlabels, hsize, List.all_eq_true.mpr fun f hf => ?_⟩
        rw [Bool.not_eq_true']
        exact Bool.eq_false_iff.mpr fun hn => hnone ⟨f, hf, hn⟩
      · exact fun f hf => (flatMap_lifted_eq_nil_iff q.catalog f).mp (hlifted f hf)
  · intro h
    rw [matchAny_of_forgets h]
    rfl

/-! ### Groups -/

/-- The match becomes a line filter. -/
def becomesLine (c : Catalog) (m : Filter.Match) : Bool :=
  !m.regex &&
    (m.atLeast ||
      !(c.isLabel m.key || isLabelledPair c m.key || c.isAddress m.key ||
        m.atoms.contains emptyAtom))

/-- The match becomes a line filter that cannot be stated after the `json` stage. -/
def isUnstatable (c : Catalog) (m : Filter.Match) : Bool :=
  becomesLine c m && (lineOf c m).toOption.any fun f => f.toLabels?.isNone

/-- A match cannot be stated if its line filter cannot. -/
theorem isUnstatable_iff {c : Catalog} {m : Filter.Match} :
    isUnstatable c m = true ↔
      becomesLine c m = true ∧ ∃ f, lineOf c m = .ok f ∧ f.toLabels? = none := by
  rw [isUnstatable, Bool.and_eq_true]
  refine and_congr_right fun _ => ?_
  cases lineOf c m with
  | error e => simp [Except.toOption]
  | ok f => simp [Except.toOption]

/-- An admitted match whose atoms hold no quotes inside cannot be stated if it becomes a line filter
without a bound and one of its atoms is looked for in an array or is a number with a sign or a
fraction. -/
theorem isUnstatable_iff_isLost {c : Catalog} {m : Filter.Match} {f : LineFilter}
    (hm : m.Admitted) (hquotes : ∀ atom ∈ m.atoms, '"' ∉ (Atom.unquoted atom).toList)
    (hf : lineOf c m = .ok f) :
    isUnstatable c m = true ↔ becomesLine c m = true ∧ m.atLeast = false ∧
      ∃ atom ∈ m.atoms, Atom.isLost (.of c m.key) atom = true := by
  have hkey : Text.Consists Recovered.isNameChar m.key :=
    hm.key_chars.mono fun _ => isNameChar_of_isKeyRest
  rw [isUnstatable_iff, ← LineFilter.toLabels?_ofAtoms hkey hquotes hf, hf]
  simp

/-- The line filter of a match is negated if the match is. -/
theorem negated_lineOf {c : Catalog} {m : Filter.Match} {f : LineFilter}
    (h : lineOf c m = .ok f) : f.negated = m.negated := by
  obtain ⟨values, -, hf⟩ := Outcome.bind_eq_ok.mp h
  cases hf
  rfl

/-- The group has several matches, one of them negated, and none of them can be stated after the
`json` stage. -/
def Forgotten (c : Catalog) (g : Filter.Group) : Prop :=
  2 ≤ g.length ∧ (∃ m ∈ g, m.negated = true) ∧ ∀ m ∈ g, isUnstatable c m = true

instance (c : Catalog) (g : Filter.Group) : Decidable (Forgotten c g) :=
  inferInstanceAs (Decidable (_ ∧ _ ∧ _))

/-- What a match adds: a line filter if it becomes one, otherwise a label filter or a clause, which
is not empty. -/
theorem addMatch_routes {m : Filter.Match} {q' : FlowQuery} (h : q.addMatch m = .ok q') :
    (becomesLine q.catalog m = true ∧ ∃ f, lineOf q.catalog m = .ok f ∧ q' = q.addLine f) ∨
      becomesLine q.catalog m = false ∧
        ((∃ f, q' = q.addLabel f) ∨ ∃ c, c.filters ≠ [] ∧ q' = q.addClause c) := by
  have hatoms : m.atoms ≠ [] := fun hnil =>
    Text.pieces_ne_nil ',' m.values.toList (List.map_eq_nil_iff.mp hnil)
  have hfields := fieldsOf_ne_nil q.catalog m.key
  rw [addMatch] at h
  dsimp only at h
  split_ifs at h with hregex hlabel hatLeast hlabel hpair haddress hempty
  · cases h
    exact .inr ⟨by simp [becomesLine, hregex], .inl ⟨_, rfl⟩⟩
  · cases h
    exact .inr ⟨by simp [becomesLine, hregex], .inr ⟨_, List.cons_ne_nil _ _, rfl⟩⟩
  · obtain ⟨f, hf, rfl⟩ := Outcome.map_eq_ok.mp h
    exact .inl ⟨by simp [becomesLine, hregex, hatLeast], f, hf, rfl⟩
  · cases h
    exact .inr ⟨by simp [becomesLine, hatLeast, hlabel], .inl ⟨_, rfl⟩⟩
  · cases h
    refine .inr ⟨by simp [becomesLine, hatLeast, hpair], .inr ⟨_, ?_, rfl⟩⟩
    exact fun hnil => hfields (List.map_eq_nil_iff.mp hnil)
  · cases h
    refine .inr ⟨by simp [becomesLine, hatLeast, haddress], .inr ⟨_, ?_, rfl⟩⟩
    obtain ⟨field, hfield⟩ := List.exists_mem_of_ne_nil _ hfields
    exact fun hnil => hatoms (List.map_eq_nil_iff.mp (List.flatMap_eq_nil_iff.mp hnil field hfield))
  · cases h
    refine .inr ⟨?_, .inr ⟨_, ?_, rfl⟩⟩
    · simp [becomesLine, hatLeast, List.contains_iff_mem.mp hempty]
    · exact fun hnil => hfields (List.map_eq_nil_iff.mp hnil)
  · obtain ⟨f, hf, rfl⟩ := Outcome.map_eq_ok.mp h
    have hnonempty : emptyAtom ∉ m.atoms := fun hmem => hempty (List.contains_iff_mem.mpr hmem)
    exact .inl
      ⟨by simp [becomesLine, hregex, hlabel, hpair, haddress, hnonempty], f, hf, rfl⟩

/-- What the query `q` has more than `q₀` after the matches of a group. -/
structure Gathers (q₀ : FlowQuery) (g : Filter.Group) (q : FlowQuery) : Prop where
  catalog : q.catalog = q₀.catalog
  fixedLabels : q.fixedLabels = q₀.fixedLabels
  fixedLines : q.fixedLines = q₀.fixedLines
  lines : List.Forall₂ (fun m f => lineOf q₀.catalog m = .ok f)
    (g.filter (becomesLine q₀.catalog)) q.lines
  others : q.labels.length + q.clauses.length = g.countP fun m => !becomesLine q₀.catalog m
  clauses : ∀ c ∈ q.clauses, c.filters ≠ []

namespace Gathers

variable {q₀ : FlowQuery} {g : Filter.Group}

/-- A match adds what it becomes. -/
theorem addMatch {m : Filter.Match} {q' : FlowQuery} (h : Gathers q₀ g q)
    (hm : q.addMatch m = .ok q') : Gathers q₀ (g ++ [m]) q' := by
  rcases addMatch_routes hm with ⟨hline, f, hf, rfl⟩ | ⟨hline, hroute⟩
  · rw [h.catalog] at hline hf
    refine ⟨h.catalog, h.fixedLabels, h.fixedLines, ?_, ?_, h.clauses⟩
    · rw [List.filter_append, List.filter_singleton, hline]
      exact List.rel_append h.lines (.cons hf .nil)
    · rw [List.countP_append, List.countP_singleton, hline]
      exact h.others
  · rw [h.catalog] at hline
    have hfilter : (g ++ [m]).filter (becomesLine q₀.catalog) =
        g.filter (becomesLine q₀.catalog) := by
      rw [List.filter_append, List.filter_singleton, hline]
      exact List.append_nil _
    have hcount : ((g ++ [m]).countP fun m => !becomesLine q₀.catalog m) =
        q.labels.length + q.clauses.length + 1 := by
      rw [List.countP_append, List.countP_singleton, hline, h.others]
      rfl
    rcases hroute with ⟨f, rfl⟩ | ⟨c, hc, rfl⟩
    · refine ⟨h.catalog, h.fixedLabels, h.fixedLines, ?_, ?_, h.clauses⟩
      · rw [hfilter]
        exact h.lines
      · rw [hcount]
        simp only [addLabel, List.length_append, List.length_singleton]
        omega
    · refine ⟨h.catalog, h.fixedLabels, h.fixedLines, ?_, ?_, ?_⟩
      · rw [hfilter]
        exact h.lines
      · rw [hcount]
        simp only [addClause, List.length_append, List.length_singleton]
        omega
      · exact List.forall_mem_append.mpr ⟨h.clauses, List.forall_mem_singleton.mpr hc⟩

/-- The matches of a group add what they become, in order. -/
theorem addMatches {ms : Filter.Group} {q' : FlowQuery} (h : Gathers q₀ g q)
    (hms : ms.foldlM FlowQuery.addMatch q = .ok q') : Gathers q₀ (g ++ ms) q' := by
  induction ms generalizing g q with
  | nil =>
    cases hms
    rw [List.append_nil]
    exact h
  | cons m ms ih =>
    rw [List.foldlM_cons] at hms
    obtain ⟨q₁, hm, hms⟩ := Outcome.bind_eq_ok.mp hms
    rw [List.append_cons]
    exact ih (h.addMatch hm) hms

/-- Every match adds at least one filter. -/
theorem length_le_filterCount (h : Gathers q₀ g q) : g.length ≤ q.filterCount := by
  have hlines : q.lines.length = g.countP (becomesLine q₀.catalog) := by
    rw [← h.lines.length_eq, List.countP_eq_length_filter]
  have hsize : q.clauses.length ≤ q.clauseSize := by
    rw [clauseSize, List.length_flatMap]
    have hone : ∀ n ∈ q.clauses.map fun c => c.filters.length, 1 ≤ n := by
      rw [List.forall_mem_map]
      exact fun c hc => List.length_pos_iff.mpr (h.clauses c hc)
    have := List.length_le_sum_of_one_le _ hone
    rwa [List.length_map] at this
  have hothers := h.others
  have hsplit := List.length_eq_countP_add_countP (becomesLine q₀.catalog) (l := g)
  simp only [Bool.not_eq_true, Bool.decide_eq_false] at hsplit
  rw [filterCount]
  omega

/-- The query of a group forgets its filters exactly if the group is forgotten. -/
theorem forgets_iff (h : Gathers q₀ g q) : q.Forgets ↔ Forgotten q₀.catalog g := by
  have hall : q.labels = [] ∧ q.clauses = [] ↔ ∀ m ∈ g, becomesLine q₀.catalog m = true := by
    rw [← List.length_eq_zero_iff, ← List.length_eq_zero_iff, ← Nat.add_eq_zero_iff, h.others,
      List.countP_eq_zero]
    simp
  -- if all matches become line filters, those of the query stand for the matches one by one
  have hlines (hbecome : ∀ m ∈ g, becomesLine q₀.catalog m = true) :
      List.Forall₂ (fun m f => lineOf q₀.catalog m = .ok f) g q.lines := by
    have := h.lines
    rwa [List.filter_eq_self.mpr hbecome] at this
  constructor
  · rintro ⟨hlabels, hclauses, hseveral, ⟨f, hf, hnegated⟩, hunstatable⟩
    have hbecome := hall.mp ⟨hlabels, hclauses⟩
    have hlines := hlines hbecome
    refine ⟨hlines.length_eq ▸ hseveral, ?_, ?_⟩
    · obtain ⟨m, hm, hline⟩ := Outcome.exists_of_forall₂ hlines.flip hf
      exact ⟨m, hm, negated_lineOf hline ▸ hnegated⟩
    · intro m hm
      obtain ⟨f, hf, hline⟩ := Outcome.exists_of_forall₂ hlines hm
      exact isUnstatable_iff.mpr ⟨hbecome m hm, f, hline, hunstatable f hf⟩
  · rintro ⟨hseveral, ⟨m, hm, hnegated⟩, hunstatable⟩
    have hbecome : ∀ m ∈ g, becomesLine q₀.catalog m = true :=
      fun m hm => (isUnstatable_iff.mp (hunstatable m hm)).1
    have hlines := hlines hbecome
    obtain ⟨hlabels, hclauses⟩ := hall.mpr hbecome
    refine ⟨hlabels, hclauses, hlines.length_eq ▸ hseveral, ?_, ?_⟩
    · obtain ⟨f, hf, hline⟩ := Outcome.exists_of_forall₂ hlines hm
      exact ⟨f, hf, (negated_lineOf hline).trans hnegated⟩
    · intro f hf
      obtain ⟨m, hm, hline⟩ := Outcome.exists_of_forall₂ hlines.flip hf
      obtain ⟨-, f', hline', hnone⟩ := isUnstatable_iff.mp (hunstatable m hm)
      rw [hline] at hline'
      cases hline'
      exact hnone

/-- The query for any of the matches of a forgotten group has the text of the query that it started
from, and none of its filters comes from a match. -/
theorem matchAny_of_forgotten (h : Gathers q₀ g q) (hg : Forgotten q₀.catalog g) :
    q.matchAny.filterCount = 0 ∧ ∀ forceJson, q.matchAny.body forceJson =
      { q₀ with labels := [], lines := [], clauses := [] : FlowQuery }.body forceJson := by
  rw [matchAny_of_forgets (h.forgets_iff.mpr hg)]
  refine ⟨rfl, fun forceJson => ?_⟩
  rw [body, body, h.fixedLabels, h.fixedLines]
  simp [renderLines, renderClauses]

end Gathers

/-- The query of a group gathers the matches of the group. -/
theorem gathers_ofGroup {catalog : Catalog} {options : FlowOptions} {g : Filter.Group}
    (hq : ofGroup catalog options g = .ok q) : Gathers (ofOptions catalog options) g q := by
  have hstart : Gathers (ofOptions catalog options) [] (ofOptions catalog options) :=
    ⟨rfl, rfl, rfl, .nil, rfl, List.forall_mem_nil _⟩
  exact hstart.addMatches hq

/-- The query for any of the matches of a group keeps a filter of them, unless the group is
forgotten; then its text is that of the options alone. -/
theorem filterCount_matchAny_pos_iff {catalog : Catalog} {options : FlowOptions}
    {g : Filter.Group} (hq : ofGroup catalog options g = .ok q) (hg : g ≠ []) :
    (0 < q.matchAny.filterCount ↔ ¬Forgotten catalog g) ∧
      (Forgotten catalog g → ∀ forceJson,
        q.matchAny.body forceJson = (ofOptions catalog options).body forceJson) := by
  have h := gathers_ofGroup hq
  have hpos : 0 < q.filterCount :=
    Nat.lt_of_lt_of_le (List.length_pos_iff.mpr hg) h.length_le_filterCount
  constructor
  · rw [Nat.pos_iff_ne_zero, not_iff_not, filterCount_matchAny_eq_zero_iff h.clauses hpos]
    exact h.forgets_iff
  · exact fun hforgotten => (h.matchAny_of_forgotten hforgotten).2

/-- A catalog with a field that holds arrays. -/
def arrayCatalog : Catalog := namespaceCatalog.register "Interfaces" (some "array") none

/-- A group of two matches on an array, one of them negated. -/
def arrayGroup : Filter.Group :=
  [{ key := "Interfaces", values := "eth0" },
    { key := "Interfaces", values := "eth1", negated := true }]

/-- A group of a negated match on an array and two on numbers, one of them with a fraction. -/
def mixedGroup : Filter.Group :=
  [{ key := "Interfaces", values := "eth0", negated := true }, { key := "Bytes", values := "1.5" },
    { key := "SrcPort", values := "80" }]

/-- The number without a fraction is kept, and so is a filter. -/
theorem filterCount_matchAny_mixedGroup :
    mixedGroup ≠ [] ∧ ∃ q, ofGroup arrayCatalog {} mixedGroup = .ok q ∧
      isUnstatable arrayCatalog { key := "Bytes", values := "1.5" } = true ∧
      0 < q.matchAny.filterCount := by
  have hok : (ofGroup arrayCatalog {} mixedGroup).isOk = true := by decide +kernel
  have hstated : isUnstatable arrayCatalog { key := "SrcPort", values := "80" } ≠ true := by
    decide +kernel
  have hkept : ¬Forgotten arrayCatalog mixedGroup := fun h => hstated (h.2.2 _ (by decide))
  obtain ⟨q, hq⟩ := Outcome.exists_of_isOk hok
  have hne : mixedGroup ≠ [] := List.cons_ne_nil _ _
  exact ⟨hne, q, hq, by decide +kernel, (filterCount_matchAny_pos_iff hq hne).1.mpr hkept⟩

/-- A match that asks for a value in an array and one that excludes another are both forgotten: the
query for any of them is that for all records. -/
theorem matchAny_interfaces :
    Filter.Expression.parse "Interfaces=eth0&Interfaces!=eth1" = .ok [arrayGroup] ∧
      ∃ q, ofGroup arrayCatalog {} arrayGroup = .ok q ∧ q.matchAny.filterCount = 0 ∧
        q.matchAny.body false = .ok "\x7bapp=\"netobserv-flowcollector\"\x7d" := by
  have hp : Filter.Expression.parse "Interfaces=eth0&Interfaces!=eth1" = .ok [arrayGroup] := by
    decide +kernel
  have hok : (ofGroup arrayCatalog {} arrayGroup).isOk = true := by decide +kernel
  have hlost : ∀ m ∈ arrayGroup, (∀ atom ∈ m.atoms, '"' ∉ (Atom.unquoted atom).toList) ∧
      (lineOf arrayCatalog m).isOk = true ∧ becomesLine arrayCatalog m = true ∧
      m.atLeast = false ∧ ∃ atom ∈ m.atoms, Atom.isLost (.of arrayCatalog m.key) atom = true := by
    decide +kernel
  have hforgotten : Forgotten arrayCatalog arrayGroup := by
    refine ⟨by decide, by decide, fun m hm => ?_⟩
    obtain ⟨hquotes, hline, hlost⟩ := hlost m hm
    obtain ⟨f, hf⟩ := Outcome.exists_of_isOk hline
    have hm : m.Admitted := Filter.admitted_of_parse hp List.mem_cons_self hm
    exact (isUnstatable_iff_isLost hm hquotes hf).mpr hlost
  obtain ⟨q, hq⟩ := Outcome.exists_of_isOk hok
  obtain ⟨hcount, hbody⟩ := (gathers_ofGroup hq).matchAny_of_forgotten hforgotten
  refine ⟨hp, q, hq, hcount, (hbody false).trans ?_⟩
  decide +kernel

end FlowQuery

end FlowConsole.LogQL
