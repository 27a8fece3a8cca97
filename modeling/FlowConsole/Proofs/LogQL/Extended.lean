import FlowConsole.LogQL.Topology
import FlowConsole.Proofs.LogQL.Comparison
import FlowConsole.Proofs.LogQL.Stages
import FlowConsole.Proofs.Url.Parameters

/-!
# Topology queries with one more label

The query of a group with one more match in front, on a label, has one more comparison in front of
those of the other labels, and is the same otherwise (`ofGroup_cons`). Its address has parameters of
the same names exactly if the match holds no sign that ends a parameter
(`parameterNames_url_withLabel`).
-/

open FlowConsole.Filter (Group Match)

namespace FlowConsole.LogQL

namespace FlowQuery

/-- The query with one more comparison before those of the labels of matches. -/
def withLabel (q : FlowQuery) (f : LabelFilter) : FlowQuery := { q with labels := f :: q.labels }

private theorem add_withLabel (q : FlowQuery) (f : LabelFilter) (a : Addition) :
    (q.withLabel f).add a = (q.add a).withLabel f := by
  cases a <;> rfl

private theorem foldl_add_withLabel (q : FlowQuery) (f : LabelFilter) (as : List Addition) :
    as.foldl add (q.withLabel f) = (as.foldl add q).withLabel f := by
  induction as generalizing q with
  | nil => rfl
  | cons a as ih => rw [List.foldl_cons, List.foldl_cons, add_withLabel, ih]

/-- The fixed labels and the options stay when matches are added. -/
theorem fixed_of_foldlM {q q' : FlowQuery} {g : Group} (h : g.foldlM addMatch q = .ok q') :
    q'.fixedLabels = q.fixedLabels ∧ q'.options = q.options := by
  rw [foldlM_addMatch] at h
  obtain ⟨as, -, rfl⟩ := Outcome.map_eq_ok.mp h
  refine ⟨foldl_add_eq fixedLabels_add q as, foldl_add_eq (fun q a => ?_) q as⟩
  cases a <;> rfl

/-- A first match on a label is compared before the other labels. -/
theorem foldlM_addMatch_cons {q q' : FlowQuery} {m : Match} {g : Group} (hq : q.labels = [])
    (hregex : m.regex = false) (hatLeast : m.atLeast = false)
    (hlabel : q.catalog.isLabel m.key = true) (h : g.foldlM addMatch q = .ok q') :
    (m :: g).foldlM addMatch q = .ok (q'.withLabel m.comparison) := by
  have hfirst : Addition.ofMatch q.catalog m = .ok (.label m.comparison) := by
    rw [Addition.ofMatch, Match.comparison, hregex, hatLeast, hlabel]
    rfl
  have hadd : q.add (.label m.comparison) = q.withLabel m.comparison := by
    rw [add, addLabel, withLabel, hq]
    rfl
  rw [foldlM_addMatch] at h
  obtain ⟨as, has, rfl⟩ := Outcome.map_eq_ok.mp h
  rw [foldlM_addMatch, List.mapM_cons, hfirst, has]
  change Except.ok (as.foldl add (q.add (.label m.comparison))) = _
  rw [hadd, foldl_add_withLabel]

end FlowQuery

private theorem join_append {ss : List String} (h : ss ≠ []) (ts : List String) :
    Text.join "," (ss ++ ts) = Text.join "," ss ++ String.join (ts.map ("," ++ ·)) := by
  cases ss with
  | nil => exact absurd rfl h
  | cons s ss =>
    rw [List.cons_append, Text.join_cons, Text.join_cons, List.map_append, String.join_append,
      String.append_assoc]

namespace FlowQuery

/-- What follows the fixed labels in the text of a query. -/
def afterLabels (q : FlowQuery) (forceJson : Bool) : String :=
  String.join ((q.labels.map LabelFilter.render).map ("," ++ ·)) ++ "\x7d" ++
    String.join ((q.fixedLines.map Stage.line ++ q.matchStages forceJson).map Stage.render)

/-- The fixed labels come first in the text of a query. -/
theorem body_eq_afterLabels (q : FlowQuery) (forceJson : Bool) (h : q.fixedLabels ≠ []) :
    q.body forceJson = .ok ("\x7b" ++ Text.join "," (q.fixedLabels.map LabelFilter.render) ++
      q.afterLabels forceJson) := by
  have hne : q.fixedLabels.map LabelFilter.render ≠ [] := fun hnil =>
    h (List.map_eq_nil_iff.mp hnil)
  rw [body_eq_stages q forceJson h, streams, List.map_append, join_append hne, afterLabels]
  simp only [String.append_assoc]

/-- One more label comes between the fixed labels and the others. -/
theorem afterLabels_withLabel (q : FlowQuery) (f : LabelFilter) (forceJson : Bool) :
    (q.withLabel f).afterLabels forceJson = "," ++ f.render ++ q.afterLabels forceJson := by
  have hstages : (q.withLabel f).matchStages forceJson = q.matchStages forceJson := rfl
  rw [afterLabels, afterLabels, hstages]
  simp only [withLabel, List.map_cons, String.join_cons, String.append_assoc]

/-- The labels that the options fix hold no sign that ends a parameter. -/
theorem amp_not_mem_fixedLabels (catalog : Catalog) (options : FlowOptions) :
    ∀ f ∈ (ofOptions catalog options).fixedLabels, '&' ∉ f.render.toList := by
  intro f hf
  rw [ofOptions] at hf
  rcases List.mem_cons.mp hf with rfl | hf
  · decide
  · split at hf
    · obtain ⟨t, -, rfl⟩ := List.mem_map.mp hf
      cases t <;> decide
    · cases hf

private theorem foldl_requireField (q : FlowQuery) (keys : List String) :
    ∃ lines, keys.foldl requireField q = { q with fixedLines := lines } := by
  induction keys generalizing q with
  | nil => exact ⟨q.fixedLines, rfl⟩
  | cons key keys ih =>
    obtain ⟨lines, hlines⟩ := ih (q.requireField key)
    exact ⟨lines, hlines⟩

end FlowQuery

namespace TopologyQuery

/-- The query with one more comparison before those of the labels of matches. -/
def withLabel (q : TopologyQuery) (f : LabelFilter) : TopologyQuery :=
  { q with flow := q.flow.withLabel f }

/-- The query of the options has no labels of matches, and its fixed labels and its options but the
limit are those of a query for flows. -/
theorem flow_ofOptions (catalog : Catalog) (options : FlowOptions) (metric : Metric.Options) :
    (ofOptions catalog options metric).flow.catalog = catalog ∧
      (ofOptions catalog options metric).flow.labels = [] ∧
      (ofOptions catalog options metric).flow.fixedLabels =
        (FlowQuery.ofOptions catalog options).fixedLabels ∧
      (ofOptions catalog options metric).flow.options = { options with limit := none } := by
  obtain ⟨lines, hlines⟩ := FlowQuery.foldl_requireField
    (FlowQuery.ofOptions catalog { options with limit := none })
    ((if metric.aggregate.custom then [metric.aggregate.key] else []) ++
      metric.measure.requiredField?.toList)
  rw [ofOptions]
  dsimp only
  rw [hlines]
  exact ⟨rfl, rfl, rfl, rfl⟩

variable {catalog : Catalog} {options : FlowOptions} {metric : Metric.Options} {q : TopologyQuery}

/-- The query of a group with a first match on a label compares that before the other labels. -/
theorem ofGroup_cons {m : Match} {g : Group} (hregex : m.regex = false)
    (hatLeast : m.atLeast = false) (hlabel : catalog.isLabel m.key = true)
    (h : ofGroup catalog options metric g = .ok q) :
    ofGroup catalog options metric (m :: g) = .ok (q.withLabel m.comparison) := by
  obtain ⟨hcatalog, hlabels, -⟩ := flow_ofOptions catalog options metric
  rw [ofGroup] at h
  obtain ⟨flow, hflow, h⟩ := Outcome.bind_eq_ok.mp h
  cases h
  have hmore := FlowQuery.foldlM_addMatch_cons hlabels hregex hatLeast (by rwa [hcatalog]) hflow
  rw [ofGroup, hmore]
  rfl

/-- The query of a group has the fixed labels of the options, and the options. -/
theorem fixed_ofGroup {g : Group} (h : ofGroup catalog options metric g = .ok q) :
    q.flow.fixedLabels = (FlowQuery.ofOptions catalog options).fixedLabels ∧
      q.flow.options = { options with limit := none } ∧ q.metric = metric := by
  obtain ⟨-, -, hlabels, hoptions⟩ := flow_ofOptions catalog options metric
  rw [ofGroup] at h
  obtain ⟨flow, hflow, h⟩ := Outcome.bind_eq_ok.mp h
  cases h
  obtain ⟨hlabels', hoptions'⟩ := FlowQuery.fixed_of_foldlM hflow
  exact ⟨hlabels'.trans hlabels, hoptions'.trans hoptions, rfl⟩

/-- What stands before the other labels in the address of a query. -/
def queryStart (q : TopologyQuery) (base : String) : String :=
  queryRange (Text.withoutTrailingSlashes base) ++ q.metric.effectiveFunction.topOperator ++ "(" ++
    toString q.metric.top ++ ",sum by(" ++ q.metric.aggregate.joined ++ ")(" ++
    q.metric.effectiveFunction.rangeFunction ++ "(" ++
    (q.metric.effectiveFunction.quantile?.map (· ++ ",")).getD "" ++ "\x7b" ++
    Text.join "," (q.flow.fixedLabels.map LabelFilter.render)

/-- What stands after the text of the records in the address of a query. -/
def queryEnd (q : TopologyQuery) : String :=
  unwrapStage q.metric ++ "[" ++ q.metric.rateInterval ++ "])))" ++
    windowParameters q.flow.options.start q.flow.options.finish ++
    parameter "limit" (some (toString q.metric.top)) ++ parameter "step" (some q.metric.step)

/-- The address of a query is made of the other labels and what follows them, and of what stands
around. -/
theorem url_eq (base : String) (h : q.flow.fixedLabels ≠ []) :
    q.url base = .ok (q.queryStart base ++ q.flow.afterLabels true ++ q.queryEnd) := by
  rw [url, body, FlowQuery.body_eq_afterLabels q.flow true h]
  change Except.ok _ = _
  simp only [queryStart, queryEnd, String.append_assoc]

/-- Up to the other labels, an address ends in the value of the query. -/
theorem endsInValue_queryStart (base : String)
    (hlabels : ∀ l ∈ q.metric.aggregate.labels, '&' ∉ l.toList)
    (hfixed : ∀ f ∈ q.flow.fixedLabels, '&' ∉ f.render.toList) :
    Url.EndsInValue (q.queryStart base) := by
  have hquery : Url.EndsInValue (queryRange (Text.withoutTrailingSlashes base)) :=
    Url.endsInValue_append _ (x := "/loki/api/v1/query_range?query".toList) rfl (by decide)
  have hoperator : '&' ∉ q.metric.effectiveFunction.topOperator.toList :=
    Url.amp_not_mem_topOperator q.metric.effectiveFunction
  have hrange : '&' ∉ q.metric.effectiveFunction.rangeFunction.toList :=
    Url.amp_not_mem_rangeFunction q.metric.effectiveFunction
  have hquantile :
      '&' ∉ ((q.metric.effectiveFunction.quantile?.map (· ++ ",")).getD "").toList :=
    Url.amp_not_mem_quantile q.metric.effectiveFunction
  have hjoined : '&' ∉ q.metric.aggregate.joined.toList := Url.amp_not_mem_joined hlabels
  have hselector :
      '&' ∉ (Text.join "," (q.flow.fixedLabels.map LabelFilter.render)).toList := by
    apply Url.amp_not_mem_join (by decide)
    intro text htext
    obtain ⟨f, hf, rfl⟩ := List.mem_map.mp htext
    exact hfixed f hf
  have htop : '&' ∉ (toString q.metric.top).toList := Url.amp_not_mem_toString q.metric.top
  have hgrouped : Url.EndsInValue (queryRange (Text.withoutTrailingSlashes base) ++
      q.metric.effectiveFunction.topOperator ++ "(" ++ toString q.metric.top ++ ",sum by(" ++
      q.metric.aggregate.joined ++ ")(") :=
    (((((hquery.append hoperator).append (by decide)).append htop).append (by decide)).append
      hjoined).append (by decide)
  exact ((((hgrouped.append hrange).append (by decide)).append hquantile).append
    (by decide)).append hselector

/-- The address of a query with one more label has parameters of the same names exactly if the label
does not end a parameter. -/
theorem parameterNames_url_withLabel {f : LabelFilter} (base : String)
    (hlabels : ∀ l ∈ q.metric.aggregate.labels, '&' ∉ l.toList)
    (hfixed : ∀ f ∈ q.flow.fixedLabels, '&' ∉ f.render.toList) (hne : q.flow.fixedLabels ≠ [])
    (hlast : f.render.toList.getLast? ≠ some '&') :
    ∃ u v, q.url base = .ok u ∧ (q.withLabel f).url base = .ok v ∧
      (Url.parameterNames v = Url.parameterNames u ↔ '&' ∉ f.render.toList) := by
  refine ⟨_, _, url_eq base hne, url_eq base hne, ?_⟩
  have hinserted : (q.withLabel f).flow.afterLabels true =
      "," ++ f.render ++ q.flow.afterLabels true :=
    FlowQuery.afterLabels_withLabel q.flow f true
  have hhead : ("," ++ f.render).toList.head? ≠ some '&' := by simp
  have hend : ("," ++ f.render).toList.getLast? ≠ some '&' := by
    rw [String.toList_append, List.getLast?_append]
    cases hc : f.render.toList.getLast? with
    | none => decide
    | some c => rwa [hc] at hlast
  have hamp : '&' ∈ ("," ++ f.render).toList ↔ '&' ∈ f.render.toList := by simp
  have hnames := Url.parameterNames_insert (endsInValue_queryStart base hlabels hfixed) hhead hend
    (q.flow.afterLabels true ++ q.queryEnd)
  have hstart : (q.withLabel f).queryStart base = q.queryStart base := rfl
  have hstop : (q.withLabel f).queryEnd = q.queryEnd := rfl
  rw [← hamp, hinserted, hstart, hstop]
  simpa only [String.append_assoc] using hnames

end TopologyQuery

end FlowConsole.LogQL
