import Mathlib.Data.List.Induction
import FlowConsole.Proofs.LogQL.Additions
import FlowConsole.Proofs.LogQL.Required

/-!
# Stages of flow queries

A query is built in steps: matches, groups of them, and fields that records must have are added, and
the query may be turned into one for any of its matches, at any time and more than once. Whatever
the steps, the text of the query is its stream selector followed by stages, which records must pass
one after another. What the options and the fields require is compared in the selector or searched
in a stage of its own; a stage that asks for one of several filters has filters of matches only
(`body_built`).

The invariants of the steps are `Built`, which holds throughout, and `InOrder`, which holds as long
as the query asks for all of its matches.
-/

open FlowConsole.Filter (Group Match)

namespace FlowConsole.LogQL.FlowQuery

variable {q q₀ : FlowQuery}

/-! ### Steps -/

/-- A step in which a query is built. -/
inductive Step
  | addMatch (m : Match)
  | addGroup (g : Group)
  | requireField (key : String)
  | matchAny
  deriving DecidableEq, Repr

namespace Step

/-- The query after a step. A match that is refused adds nothing; in a group, neither do those after
it. -/
def apply (q : FlowQuery) : Step → FlowQuery
  | addMatch m => (q.addMatch m).toOption.getD q
  | addGroup g => (q.addGroup g).1
  | requireField key => q.requireField key
  | matchAny => q.matchAny

/-- The matches that a step tries to add. -/
def group : Step → Group
  | addMatch m => [m]
  | addGroup g => g
  | requireField _ | matchAny => []

/-- The fields that a step requires. -/
def required : Step → List String
  | requireField key => [key]
  | addMatch _ | addGroup _ | matchAny => []

/-- A match is added as the group of that match. -/
theorem apply_addMatch (q : FlowQuery) (m : Match) :
    (addMatch m).apply q = (addGroup [m]).apply q := by
  rw [apply, apply, FlowQuery.addGroup]
  cases q.addMatch m with
  | ok q' => rfl
  | error e => rfl

end Step

/-- The query after steps in order. -/
def run (q : FlowQuery) (steps : List Step) : FlowQuery := steps.foldl Step.apply q

/-- The matches that steps add. -/
def accepted (c : Catalog) (steps : List Step) : Group :=
  steps.flatMap fun s => Addition.accepted c s.group

/-- What those matches add. -/
def additions (c : Catalog) (steps : List Step) : List Addition :=
  steps.flatMap fun s => Addition.ofGroup c s.group

/-- The line filters of the fields that steps require. -/
def requiredLines (c : Catalog) (steps : List Step) : List LineFilter :=
  (steps.flatMap Step.required).map fun key => .presence key (c.needsStrictKey key)

/-- Each match that steps add adds one thing. -/
theorem forall₂_additions (c : Catalog) (steps : List Step) :
    List.Forall₂ (fun m a => Addition.ofMatch c m = .ok a) (accepted c steps)
      (additions c steps) := by
  induction steps with
  | nil => exact .nil
  | cons s steps ih => exact List.rel_append (Addition.forall₂_ofGroup c s.group) ih

/-- No match adds an empty clause. -/
theorem filters_ne_nil_of_mem_additions {c : Catalog} {steps : List Step} {clause : Clause}
    (h : .clause clause ∈ additions c steps) : clause.filters ≠ [] := by
  obtain ⟨m, -, hm⟩ := Outcome.exists_of_forall₂ (forall₂_additions c steps).flip h
  exact filters_ne_nil_of_ofMatch hm

/-! ### What queries hold -/

/-- The clause is an addition, or says the same as an addition of another kind. -/
def States (c : Catalog) (as : List Addition) (clause : Clause) : Prop :=
  .clause clause ∈ as ∨ (∃ f, .label f ∈ as ∧ clause = .single f) ∨
    ∃ f, .line f ∈ as ∧ clause ∈ lifted c f

/-- A clause that stands for one of many additions stands for one of more. -/
theorem States.mono {c : Catalog} {as bs : List Addition} {clause : Clause}
    (h : States c as clause) (hsub : as ⊆ bs) : States c bs clause := by
  rcases h with h | ⟨f, hf, rfl⟩ | ⟨f, hf, hc⟩
  · exact .inl (hsub h)
  · exact .inr (.inl ⟨f, hsub hf, rfl⟩)
  · exact .inr (.inr ⟨f, hsub hf, hc⟩)

/-- A clause that stands for an addition is not empty, if no clause among the additions is. -/
theorem States.filters_ne_nil {c : Catalog} {as : List Addition} {clause : Clause}
    (h : States c as clause) (has : ∀ clause, .clause clause ∈ as → clause.filters ≠ []) :
    clause.filters ≠ [] := by
  rcases h with h | ⟨f, -, rfl⟩ | ⟨f, -, hc⟩
  · exact has clause h
  · exact List.cons_ne_nil f []
  · obtain ⟨l, -, rfl⟩ := List.mem_map.mp hc
    exact filters_liftedClause_ne_nil c f.negated l

/-- The query `q` holds what `q₀` holds for all records, the required line filters, and otherwise
nothing but what was added. -/
structure Built (q₀ : FlowQuery) (required : List LineFilter) (as : List Addition) (q : FlowQuery) :
    Prop where
  catalog : q.catalog = q₀.catalog
  fixedLabels : q.fixedLabels = q₀.fixedLabels
  fixedLines : q.fixedLines = q₀.fixedLines ++ required
  labels : ∀ f ∈ q.labels, .label f ∈ as
  lines : ∀ f ∈ q.lines, .line f ∈ as
  clauses : ∀ c ∈ q.clauses, States q₀.catalog as c

namespace Built

variable {required : List LineFilter} {as : List Addition}

/-- One more addition is held. -/
theorem add (h : Built q₀ required as q) (a : Addition) :
    Built q₀ required (as ++ [a]) (q.add a) := by
  have hsub : as ⊆ as ++ [a] := List.subset_append_left as [a]
  have hlast : a ∈ as ++ [a] := List.mem_append_right as (List.mem_singleton_self a)
  refine ⟨by simp [h.catalog], by simp [h.fixedLabels], by simp [h.fixedLines], ?_, ?_, ?_⟩
  · intro f hf
    cases a with
    | label f' =>
      rcases List.mem_append.mp hf with hf | hf
      · exact hsub (h.labels f hf)
      · rw [List.mem_singleton.mp hf]
        exact hlast
    | line f' => exact hsub (h.labels f hf)
    | clause c' => exact hsub (h.labels f hf)
  · intro f hf
    cases a with
    | label f' => exact hsub (h.lines f hf)
    | line f' =>
      rcases List.mem_append.mp hf with hf | hf
      · exact hsub (h.lines f hf)
      · rw [List.mem_singleton.mp hf]
        exact hlast
    | clause c' => exact hsub (h.lines f hf)
  · intro c hc
    cases a with
    | label f' => exact (h.clauses c hc).mono hsub
    | line f' => exact (h.clauses c hc).mono hsub
    | clause c' =>
      rcases List.mem_append.mp hc with hc | hc
      · exact (h.clauses c hc).mono hsub
      · rw [List.mem_singleton.mp hc]
        exact .inl hlast

/-- More additions are held. -/
theorem addAll (h : Built q₀ required as q) (bs : List Addition) :
    Built q₀ required (as ++ bs) (bs.foldl FlowQuery.add q) := by
  induction bs generalizing as q with
  | nil =>
    rw [List.append_nil]
    exact h
  | cons b bs ih =>
    rw [List.append_cons]
    exact ih (h.add b)

/-- The line filter of a field comes after those that are required already. -/
theorem requireField (h : Built q₀ required as q) (key : String) :
    Built q₀ (required ++ [.presence key (q₀.catalog.needsStrictKey key)]) as
      (q.requireField key) := by
  refine ⟨h.catalog, h.fixedLabels, ?_, h.labels, h.lines, h.clauses⟩
  rw [FlowQuery.requireField, h.fixedLines, h.catalog, List.append_assoc]

/-- Asking for any of the matches, a query states nothing but what was added. -/
theorem matchAny (h : Built q₀ required as q) : Built q₀ required as q.matchAny := by
  rw [FlowQuery.matchAny]
  split_ifs
  · exact ⟨h.catalog, h.fixedLabels, h.fixedLines, h.labels, h.lines, h.clauses⟩
  · exact ⟨h.catalog, h.fixedLabels, h.fixedLines, h.labels, h.lines, h.clauses⟩
  · refine ⟨h.catalog, h.fixedLabels, h.fixedLines, ?_, ?_, ?_⟩
    · exact List.forall_mem_nil _
    · exact List.forall_mem_nil _
    · intro c hc
      rw [List.mem_append, List.mem_append, List.mem_map, List.mem_flatMap] at hc
      rcases hc with (⟨f, hf, rfl⟩ | ⟨f, hf, hc⟩) | hc
      · exact .inr (.inl ⟨f, h.labels f hf, rfl⟩)
      · rw [h.catalog] at hc
        exact .inr (.inr ⟨f, h.lines f hf, hc⟩)
      · exact h.clauses c hc

end Built

/-- A query holds the label filters, the line filters and the clauses of the additions, each in the
order in which they were added. -/
structure InOrder (as : List Addition) (q : FlowQuery) : Prop where
  labels : q.labels = as.filterMap Addition.label?
  lines : q.lines = as.filterMap Addition.line?
  clauses : q.clauses = as.filterMap Addition.clause?

namespace InOrder

variable {as : List Addition}

/-- One more addition comes last among those of its kind. -/
theorem add (h : InOrder as q) (a : Addition) : InOrder (as ++ [a]) (q.add a) := by
  have hlabels := h.labels
  have hlines := h.lines
  have hclauses := h.clauses
  cases a with
  | label f => exact ⟨by simp [FlowQuery.add, addLabel, Addition.label?, hlabels],
      by simp [FlowQuery.add, addLabel, Addition.line?, hlines],
      by simp [FlowQuery.add, addLabel, Addition.clause?, hclauses]⟩
  | line f => exact ⟨by simp [FlowQuery.add, addLine, Addition.label?, hlabels],
      by simp [FlowQuery.add, addLine, Addition.line?, hlines],
      by simp [FlowQuery.add, addLine, Addition.clause?, hclauses]⟩
  | clause c => exact ⟨by simp [FlowQuery.add, addClause, Addition.label?, hlabels],
      by simp [FlowQuery.add, addClause, Addition.line?, hlines],
      by simp [FlowQuery.add, addClause, Addition.clause?, hclauses]⟩

/-- More additions come in order. -/
theorem addAll (h : InOrder as q) (bs : List Addition) :
    InOrder (as ++ bs) (bs.foldl FlowQuery.add q) := by
  induction bs generalizing as q with
  | nil =>
    rw [List.append_nil]
    exact h
  | cons b bs ih =>
    rw [List.append_cons]
    exact ih (h.add b)

end InOrder

/-! ### Runs -/

/-- The last step is taken after the others. -/
theorem run_append_singleton (q : FlowQuery) (steps : List Step) (s : Step) :
    run q (steps ++ [s]) = s.apply (run q steps) := by
  rw [run, List.foldl_append]
  rfl

private theorem additions_append_singleton (c : Catalog) (steps : List Step) (s : Step) :
    additions c (steps ++ [s]) = additions c steps ++ Addition.ofGroup c s.group := by
  simp [additions]

private theorem requiredLines_append_singleton (c : Catalog) (steps : List Step) (s : Step) :
    requiredLines c (steps ++ [s]) = requiredLines c steps ++
      s.required.map fun key => .presence key (c.needsStrictKey key) := by
  simp [requiredLines]

/-- What is held before a step and what the step adds are held after it. -/
theorem Built.step {required : List LineFilter} {as : List Addition} (h : Built q₀ required as q)
    (s : Step) :
    Built q₀ (required ++ s.required.map fun key => .presence key (q₀.catalog.needsStrictKey key))
      (as ++ Addition.ofGroup q₀.catalog s.group) (s.apply q) := by
  have hgroup (g : Group) : Built q₀ (required ++ []) (as ++ Addition.ofGroup q₀.catalog g)
      ((Step.addGroup g).apply q) := by
    rw [List.append_nil, Step.apply, addGroup_eq, h.catalog]
    exact h.addAll _
  cases s with
  | addMatch m =>
    rw [Step.apply_addMatch]
    exact hgroup [m]
  | addGroup g => exact hgroup g
  | requireField key =>
    have hrequired := h.requireField key
    rwa [← List.append_nil as] at hrequired
  | matchAny =>
    have hany := h.matchAny
    rwa [← List.append_nil as, ← List.append_nil required] at hany

/-- After any steps, a query without matches at the start holds nothing but what they add. -/
theorem built_run (q₀ : FlowQuery) (hlabels : q₀.labels = []) (hlines : q₀.lines = [])
    (hclauses : q₀.clauses = [])
    (steps : List Step) :
    Built q₀ (requiredLines q₀.catalog steps) (additions q₀.catalog steps) (run q₀ steps) := by
  induction steps using List.reverseRecOn with
  | nil =>
    refine ⟨rfl, rfl, (List.append_nil _).symm, ?_, ?_, ?_⟩
    · rw [run, List.foldl_nil, hlabels]
      exact List.forall_mem_nil _
    · rw [run, List.foldl_nil, hlines]
      exact List.forall_mem_nil _
    · rw [run, List.foldl_nil, hclauses]
      exact List.forall_mem_nil _
  | append_singleton steps s ih =>
    rw [run_append_singleton, additions_append_singleton, requiredLines_append_singleton]
    exact ih.step s

/-- After steps that leave all matches wanted, a query without matches at the start holds what they
add, in order. -/
theorem inOrder_run (q₀ : FlowQuery) (hlabels : q₀.labels = []) (hlines : q₀.lines = [])
    (hclauses : q₀.clauses = [])
    {steps : List Step} (hsteps : .matchAny ∉ steps) :
    InOrder (additions q₀.catalog steps) (run q₀ steps) := by
  induction steps using List.reverseRecOn with
  | nil => exact ⟨hlabels, hlines, hclauses⟩
  | append_singleton steps s ih =>
    rw [List.mem_append, not_or] at hsteps
    have h := ih hsteps.1
    have hcatalog := (built_run q₀ hlabels hlines hclauses steps).catalog
    have hgroup (g : Group) : InOrder (additions q₀.catalog steps ++ Addition.ofGroup q₀.catalog g)
        ((Step.addGroup g).apply (run q₀ steps)) := by
      rw [Step.apply, addGroup_eq, hcatalog]
      exact h.addAll _
    rw [run_append_singleton, additions_append_singleton]
    cases s with
    | addMatch m =>
      rw [Step.apply_addMatch]
      exact hgroup [m]
    | addGroup g => exact hgroup g
    | requireField key =>
      have hrequired : InOrder (additions q₀.catalog steps) ((run q₀ steps).requireField key) :=
        ⟨h.labels, h.lines, h.clauses⟩
      rwa [← List.append_nil (additions q₀.catalog steps)] at hrequired
    | matchAny => exact absurd (List.mem_singleton_self _) hsteps.2

/-! ### Stages -/

/-- A stage of a query. A record must pass all stages. -/
inductive Stage
  | line (f : LineFilter)
  /-- One of the line filters is enough. -/
  | anyLine (fs : List LineFilter)
  | json
  | clause (c : Clause)
  /-- One of the clauses is enough. -/
  | anyClause (cs : List Clause)
  deriving DecidableEq, Repr

namespace Stage

/-- The text of a stage. -/
def render : Stage → String
  | line f => f.render
  | anyLine fs => LineFilter.stage "|~" (Text.join "|" (fs.map fun f => "(" ++ f.body ++ ")"))
  | json => "|json"
  | clause c => "|" ++ c.render
  | anyClause cs => "|" ++ Text.join " or " (cs.map Clause.render)

/-- The stage states nothing but additions. -/
def FromMatches (c : Catalog) (as : List Addition) : Stage → Prop
  | line f => .line f ∈ as
  | anyLine fs => ∀ f ∈ fs, .line f ∈ as
  | json => True
  | clause cl => States c as cl
  | anyClause cs => ∀ cl ∈ cs, States c as cl

end Stage

/-- The text of a stream selector. -/
def streams (labels : List LabelFilter) : String :=
  "\x7b" ++ Text.join "," (labels.map LabelFilter.render) ++ "\x7d"

/-- The stages of the line filters of matches. -/
def lineStages (q : FlowQuery) : List Stage :=
  if q.anyLine && 1 < q.lines.length then [.anyLine q.lines] else q.lines.map .line

/-- The stages of the clauses, after the `json` stage. -/
def clauseStages (q : FlowQuery) (forceJson : Bool) : List Stage :=
  (if forceJson || !q.clauses.isEmpty then [.json] else []) ++
    if q.clauses.isEmpty then []
    else if q.anyClause then [.anyClause q.clauses] else q.clauses.map .clause

/-- The stages of what comes from matches. -/
def matchStages (q : FlowQuery) (forceJson : Bool) : List Stage :=
  q.lineStages ++ q.clauseStages forceJson

private theorem renderLines_eq_stages (q : FlowQuery) :
    q.renderLines = String.join (q.lineStages.map Stage.render) := by
  rw [renderLines, lineStages]
  split
  · simp [Stage.render]
  · rw [List.map_map]
    rfl

private theorem join_bar {c : Clause} {cs : List Clause} :
    "|" ++ Text.join "|" ((c :: cs).map Clause.render) =
      String.join ((c :: cs).map fun c => "|" ++ c.render) := by
  induction cs generalizing c with
  | nil => simp [Text.join]
  | cons d cs ih =>
    have hjoin : Text.join "|" ((c :: d :: cs).map Clause.render) =
        c.render ++ "|" ++ Text.join "|" ((d :: cs).map Clause.render) := rfl
    rw [hjoin, String.append_assoc, ih, ← String.append_assoc]
    exact String.join_cons.symm

private theorem renderClauses_eq_stages (q : FlowQuery) (forceJson : Bool) :
    q.renderClauses forceJson = String.join ((q.clauseStages forceJson).map Stage.render) := by
  have hjson : (if forceJson || !q.clauses.isEmpty then "|json" else "") =
      String.join ((if forceJson || !q.clauses.isEmpty then [.json] else []).map Stage.render) := by
    split
    · rfl
    · rfl
  rw [renderClauses, clauseStages, List.map_append, String.join_append, hjson]
  congr 1
  cases hclauses : q.clauses with
  | nil => rfl
  | cons c cs =>
    rw [List.isEmpty_cons, if_neg Bool.false_ne_true, if_neg Bool.false_ne_true]
    split
    · simp [Stage.render]
    · rw [join_bar, List.map_map]
      rfl

/-- The text of a query that selects streams is its selector and its stages in order. -/
theorem body_eq_stages (q : FlowQuery) (forceJson : Bool) (h : q.fixedLabels ≠ []) :
    q.body forceJson = .ok (streams (q.fixedLabels ++ q.labels) ++
      String.join ((q.fixedLines.map Stage.line ++ q.matchStages forceJson).map
        Stage.render)) := by
  have hselector : selector (q.fixedLabels ++ q.labels) =
      .ok (streams (q.fixedLabels ++ q.labels)) := by
    rw [selector, if_neg]
    · rfl
    · rw [List.isEmpty_iff]
      exact List.append_ne_nil_of_left_ne_nil h q.labels
  have hfixed : (q.fixedLines.map Stage.line).map Stage.render =
      q.fixedLines.map LineFilter.render := by
    rw [List.map_map]
    rfl
  rw [body, hselector]
  change Except.ok _ = _
  rw [renderLines_eq_stages, renderClauses_eq_stages, matchStages, List.map_append,
    List.map_append, String.join_append, String.join_append, hfixed, String.append_assoc,
    String.append_assoc]

/-- The stages of the line filters and of the clauses state nothing but what was added. -/
theorem Built.fromMatches {required : List LineFilter} {as : List Addition}
    (h : Built q₀ required as q) (forceJson : Bool) :
    ∀ s ∈ q.matchStages forceJson, s.FromMatches q₀.catalog as := by
  intro s hs
  rw [matchStages, lineStages, clauseStages, List.mem_append, List.mem_append] at hs
  rcases hs with hs | hs | hs
  · split at hs
    · rw [List.mem_singleton.mp hs]
      exact h.lines
    · obtain ⟨f, hf, rfl⟩ := List.mem_map.mp hs
      exact h.lines f hf
  · split at hs
    · rw [List.mem_singleton.mp hs]
      trivial
    · cases hs
  · split_ifs at hs
    · cases hs
    · rw [List.mem_singleton.mp hs]
      exact h.clauses
    · obtain ⟨c, hc, rfl⟩ := List.mem_map.mp hs
      exact h.clauses c hc

/-! ### The text of a query -/

private theorem render_lines (fs : List LineFilter) :
    String.join ((fs.map Stage.line).map Stage.render) =
      String.join ((fs.flatMap LineFilter.searches).map LineSearch.render) := by
  rw [List.map_map]
  exact LineFilter.join_render fs

private theorem searches_requiredLines (c : Catalog) (steps : List Step) :
    (requiredLines c steps).flatMap LineFilter.searches =
      (steps.flatMap Step.required).map (LineSearch.presence c) := by
  rw [requiredLines, List.flatMap_map, List.map_eq_flatMap]
  exact congrArg (fun f => List.flatMap f _) (funext (searches_presence c))

/-- The query that steps build from options. -/
def built (catalog : Catalog) (options : FlowOptions) (steps : List Step) : FlowQuery :=
  run (ofOptions catalog options) steps

/-- Whatever the steps, the query of the options has a text, with or without the `json` stage. What
the options require of labels is compared in its selector, and each search for what they and the
steps require of lines is a stage; the other stages, those that ask for one of several filters among
them, state nothing but what accepted matches have added. Each of these has added one thing, and as
long as the query asks for all of its matches it holds just that, in order. No clause is empty. -/
theorem body_built (catalog : Catalog) (options : FlowOptions) (steps : List Step) :
    (∀ forceJson, (built catalog options steps).body forceJson =
        Except.ok ("\x7b" ++ Text.join "," (options.required catalog ++
            (built catalog options steps).labels.map LabelFilter.render) ++ "\x7d" ++
          String.join ((options.requiredSearches catalog ++
            (steps.flatMap Step.required).map (LineSearch.presence catalog)).map
              LineSearch.render) ++
          String.join (((built catalog options steps).matchStages forceJson).map Stage.render))) ∧
      (∀ forceJson, ∀ s ∈ (built catalog options steps).matchStages forceJson,
        s.FromMatches catalog (additions catalog steps)) ∧
      List.Forall₂ (fun m a => Addition.ofMatch catalog m = .ok a) (accepted catalog steps)
        (additions catalog steps) ∧
      (.matchAny ∉ steps → InOrder (additions catalog steps) (built catalog options steps)) ∧
      ∀ c ∈ (built catalog options steps).clauses, c.filters ≠ [] := by
  have hcatalog : (ofOptions catalog options).catalog = catalog := rfl
  have h : Built (ofOptions catalog options) (requiredLines catalog steps)
      (additions catalog steps) (built catalog options steps) := by
    have hrun := built_run (ofOptions catalog options) rfl rfl rfl steps
    rw [hcatalog] at hrun
    exact hrun
  have hne : (built catalog options steps).fixedLabels ≠ [] := by
    rw [h.fixedLabels]
    exact List.cons_ne_nil _ _
  refine ⟨fun forceJson => ?_, h.fromMatches, forall₂_additions catalog steps, ?_, ?_⟩
  · rw [body_eq_stages _ forceJson hne, h.fixedLabels, h.fixedLines, List.map_append,
      String.join_append, render_lines, List.flatMap_append, searches_fixedLines,
      searches_requiredLines, streams, List.map_append, render_fixedLabels]
    simp only [String.append_assoc]
  · intro hsteps
    have hrun := inOrder_run (ofOptions catalog options) rfl rfl rfl hsteps
    rw [hcatalog] at hrun
    exact hrun
  · intro c hc
    exact (h.clauses c hc).filters_ne_nil fun _ => filters_ne_nil_of_mem_additions

/-- Steps that add a label filter, a line filter and a clause, and require a field. A port that is
no number is refused, and the match after it is not tried. -/
def mixedSteps : List Step :=
  [.addMatch { key := "SrcK8S_Namespace", values := "\"a\"" },
    .requireField "Packets",
    .addGroup [{ key := "Bytes", values := "5" }, { key := "SrcPort", values := "x" },
      { key := "Proto", values := "6" }],
    .addMatch { key := "SrcAddr", values := "10.0.0.1" }]

/-- Options that ask for connections that lost packets, without duplicates. -/
def lossyConnections : FlowOptions :=
  { dedup := .dropDuplicates, recordType := some .allConnections, packetLoss := .hasDrops }

/-- Three of the matches are accepted, and the query holds what they add. Turned into one for any of
them, it states them after the `json` stage, apart from what the options and the field require. -/
theorem body_built_mixedSteps :
    .matchAny ∉ mixedSteps ∧
      InOrder (additions namespaceCatalog mixedSteps)
        (built namespaceCatalog lossyConnections mixedSteps) ∧
      (accepted namespaceCatalog mixedSteps).map Match.key =
        ["SrcK8S_Namespace", "Bytes", "SrcAddr"] ∧
      (built namespaceCatalog lossyConnections (mixedSteps ++ [.matchAny])).body false =
        .ok ("\x7bapp=\"netobserv-flowcollector\"\x7d!~`Duplicate\":true`" ++
          "|~`_RecordType\":\"newConnection\"|_RecordType\":\"heartbeat\"" ++
          "|_RecordType\":\"endConnection\"`|~`PktDropPackets\":[1-9][0-9]*[,\x7d]`" ++
          "|~`\"Packets\":`|json|SrcK8S_Namespace=\"a\" or Bytes=5 or " ++
          "SrcAddr=ip(\"10.0.0.1\")") := by
  have hsteps : .matchAny ∉ mixedSteps := by decide
  obtain ⟨-, -, -, hinOrder, -⟩ := body_built namespaceCatalog lossyConnections mixedSteps
  obtain ⟨hbody, -⟩ :=
    body_built namespaceCatalog lossyConnections (mixedSteps ++ [.matchAny])
  exact ⟨hsteps, hinOrder hsteps, by decide +kernel, (hbody false).trans (by decide +kernel)⟩

end FlowConsole.LogQL.FlowQuery
