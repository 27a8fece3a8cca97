import FlowConsole.Proofs.LogQL.Extended

/-!
# Queries without the sign between parameters

Names and atoms without the sign that ends a parameter make filters without it: patterns, lower
bounds and recovered values bring in none. So the text of a query of such matches, for all or for
any of them, stands in an address as one value (`FlowQuery.Built.amp_not_mem_body`).
-/

open FlowConsole.Filter (Group Match)

namespace FlowConsole

/-- Nothing in the options of a metric query ends a parameter. -/
structure Metric.Options.IsInner (o : Metric.Options) : Prop where
  key : o.aggregate.custom = true → '&' ∉ o.aggregate.key.toList
  labels : ∀ label ∈ o.aggregate.labels, '&' ∉ label.toList
  step : '&' ∉ o.step.toList
  rateInterval : '&' ∉ o.rateInterval.toList

namespace LogQL

/-! ### Line filters -/

private theorem amp_not_mem_patternOf {cs : List Char} (h : '&' ∉ cs) :
    '&' ∉ AtLeast.patternOf cs := by
  have hbound : ∀ c, isBoundChar c = true → (c != '&') = true := by
    intro c hc
    rw [bne_iff_ne]
    rintro rfl
    cases hc
  have hchars : ∀ c ∈ cs, (c != '&') = true := fun c hc =>
    bne_iff_ne.mpr fun heq => h (heq ▸ hc)
  exact fun hamp => bne_iff_ne.mp (all_patternOf hbound hchars '&' hamp) rfl

private theorem amp_not_mem_unquoted {atom : String} (h : '&' ∉ atom.toList) :
    '&' ∉ (Atom.unquoted atom).toList := by
  rw [Atom.unquoted]
  cases hinner : Atom.unquoted? atom with
  | none => exact h
  | some inner => rwa [Option.getD_some, Atom.amp_mem_of_unquoted? hinner]

namespace LineFilter

/-- Neither the name nor a value ends a parameter. -/
structure IsInner (f : LineFilter) : Prop where
  key : '&' ∉ f.key.toList
  values : ∀ v ∈ f.values, '&' ∉ v.text.toList

private theorem amp_not_mem_valuePattern {v : LineValue} (h : '&' ∉ v.text.toList) :
    '&' ∉ v.pattern.toList := by
  obtain ⟨form, text⟩ := v
  cases form with
  | number | flag | regex => exact h
  | atLeast =>
    rw [LineValue.pattern, String.toList_ofList]
    exact amp_not_mem_patternOf h
  | text | contains | arrayContains => simpa [LineValue.pattern] using h

variable {f : LineFilter}

private theorem IsInner.keyPattern (h : f.IsInner) : '&' ∉ f.keyPattern.toList := by
  rw [LineFilter.keyPattern]
  split <;> simp [h.key]

/-- The pattern of the field with a value does not end a parameter. -/
theorem IsInner.fragment (h : f.IsInner) {v : LineValue} (hv : v ∈ f.values) :
    '&' ∉ (f.fragment v).toList := by
  simp [LineFilter.fragment, h.keyPattern, amp_not_mem_valuePattern (h.values v hv)]

/-- The body of a line filter does not end a parameter. -/
theorem IsInner.body (h : f.IsInner) : '&' ∉ f.body.toList := by
  rw [LineFilter.body]
  split
  · exact h.keyPattern
  · refine Url.amp_not_mem_join (by decide) (List.forall_mem_map.mpr fun v hv => ?_)
    have hboundary : '&' ∉ v.boundary.toList := by
      rw [LineValue.boundary]
      split <;> decide
    simp [alternative, h.fragment hv, hboundary]

/-- The text of a line filter does not end a parameter. -/
theorem IsInner.render (h : f.IsInner) : '&' ∉ f.render.toList := by
  rw [LineFilter.render]
  split_ifs <;> simp [stage, h.keyPattern, h.body]

private theorem amp_not_mem_ofAtom {key atom : String} {kind : LineKind} {atLeast : Bool}
    {v : LineValue} (ha : '&' ∉ atom.toList) (h : LineValue.ofAtom key kind atLeast atom = .ok v) :
    '&' ∉ v.text.toList := by
  have hunquoted := amp_not_mem_unquoted ha
  rw [LineValue.ofAtom.eq_def] at h
  cases kind with
  | numeric =>
    dsimp only at h
    split_ifs at h <;> cases h
    · exact hunquoted
    · rwa [Atom.amp_mem_pattern]
  | array =>
    dsimp only at h
    split_ifs at h
    cases h
    rwa [Atom.amp_mem_pattern]
  | text =>
    dsimp only at h
    split_ifs at h
    split at h
    · next inner hinner =>
      cases h
      rwa [Atom.amp_mem_pattern, Atom.amp_mem_of_unquoted? hinner]
    · cases h
      rwa [Atom.amp_mem_pattern]

/-- The filter of the atoms of a match does not end a parameter if neither its name nor an atom
does. -/
theorem isInner_ofAtoms {key : String} (hk : '&' ∉ key.toList) {atoms : List String}
    (ha : ∀ atom ∈ atoms, '&' ∉ atom.toList) {kind : LineKind} {strict negated atLeast : Bool}
    (h : ofAtoms key atoms kind strict negated atLeast = .ok f) : f.IsInner := by
  obtain ⟨values, hvalues, h⟩ := Outcome.bind_eq_ok.mp h
  cases h
  refine ⟨hk, fun v hv => ?_⟩
  obtain ⟨atom, hatom, hv⟩ := Outcome.exists_of_mem_mapM hvalues hv
  exact amp_not_mem_ofAtom (ha atom hatom) hv

end LineFilter

/-! ### Recovered values -/

namespace Recovered

variable {r : Recovered}

private theorem amp_not_mem_toLabel (hname : '&' ∉ r.name.toList) (hvalue : '&' ∉ r.value.toList)
    (negated : Bool) : '&' ∉ (r.toLabel negated).render.toList := by
  rw [LabelFilter.amp_mem_render, toLabel]
  split <;> simp [LabelFilter.number, LabelFilter.regex, hname, hvalue]

/-- The label filters of recovered values do not end a parameter if none of the names and values
does. -/
theorem amp_not_mem_toLabels {rs : List Recovered}
    (h : ∀ r ∈ rs, '&' ∉ r.name.toList ∧ '&' ∉ r.value.toList) (negated : Bool) :
    ∀ f ∈ toLabels negated rs, '&' ∉ f.render.toList := by
  have hone : ∀ r ∈ rs, ∀ n, '&' ∉ (r.toLabel n).render.toList := fun r hr =>
    amp_not_mem_toLabel (h r hr).1 (h r hr).2
  intro f hf
  unfold toLabels at hf
  split at hf
  · cases hf
  · next r =>
    rw [List.mem_singleton.mp hf]
    exact hone r List.mem_cons_self negated
  · next r rs _ =>
    split at hf
    · rw [List.mem_singleton.mp hf, LabelFilter.amp_mem_render, not_or]
      refine ⟨(h r List.mem_cons_self).1, ?_⟩
      refine Url.amp_not_mem_join (by decide) (List.forall_mem_map.mpr fun u hu => ?_)
      simp [(h u hu).2]
    · obtain ⟨u, hu, rfl⟩ := List.mem_map.mp hf
      exact hone u hu false

end Recovered

/-- The label filters that stand for a line filter do not end a parameter if that does not. -/
theorem LineFilter.IsInner.amp_not_mem_toLabels? {f : LineFilter} (hf : f.IsInner)
    {ls : List LabelFilter} (h : f.toLabels? = some ls) : ∀ l ∈ ls, '&' ∉ l.render.toList := by
  rw [toLabels?] at h
  split_ifs at h
  · cases h
    intro l hl
    rw [List.mem_singleton.mp hl, LabelFilter.amp_mem_render]
    simp [LabelFilter.text, hf.key]
  · intro l hl
    obtain ⟨v, hv, hl⟩ := Outcome.exists_of_mem_mapM_some h hl
    rw [LabelFilter.atLeast] at hl
    split_ifs at hl
    · cases hl
      rw [LabelFilter.amp_mem_render, not_or]
      exact ⟨hf.key, hf.values v hv⟩
    · cases hl
  · obtain ⟨rs, hrs, rfl⟩ := Option.map_eq_some_iff.mp h
    refine Recovered.amp_not_mem_toLabels (fun r hr => ?_) f.negated
    obtain ⟨v, hv, hfirst⟩ := Outcome.exists_of_mem_mapM_some hrs hr
    have hfound := Recovered.foundIn_of_first? hfirst
    refine ⟨fun hamp => ?_, fun hamp => hf.fragment hv (hfound.value '&' hamp)⟩
    have hname := hfound.name '&' hamp
    simp [Recovered.isNameChar, Text.isAsciiWord] at hname

/-! ### Clauses -/

namespace Clause

/-- No filter ends a parameter. -/
def IsInner (c : Clause) : Prop := ∀ f ∈ c.filters, '&' ∉ f.render.toList

/-- The text of a clause does not end a parameter if none of its filters does. -/
theorem IsInner.render {c : Clause} (h : c.IsInner) : '&' ∉ c.render.toList := by
  obtain ⟨anyOf, filters⟩ := c
  have hjoined : '&' ∉ (Text.join (if anyOf then " or " else " and ")
      (filters.map LabelFilter.render)).toList := by
    have hsep : '&' ∉ (if anyOf then " or " else " and ").toList := by
      cases anyOf <;> decide
    exact Url.amp_not_mem_join hsep (List.forall_mem_map.mpr h)
  rw [Clause.render]
  split
  · next f hone => exact h f (hone ▸ List.mem_singleton_self f)
  · simpa using hjoined

end Clause

private theorem amp_not_mem_of_pair? {c : Catalog} {key src dst : String}
    (hk : '&' ∉ key.toList) (h : c.pair? key = some (src, dst)) :
    '&' ∉ src.toList ∧ '&' ∉ dst.toList := by
  obtain ⟨rfl, rfl⟩ := FlowQuery.eq_of_pair? h
  simp [Field.source, Field.destination, hk]

/-- A clause that stands for a line filter does not end a parameter if that does not. -/
theorem isInner_of_mem_lifted {c : Catalog} {f : LineFilter} (hf : f.IsInner) :
    ∀ clause ∈ FlowQuery.lifted c f, clause.IsInner := by
  intro clause hclause
  obtain ⟨l, hl, rfl⟩ := List.mem_map.mp hclause
  have hlabel : '&' ∉ l.render.toList := by
    cases hls : f.toLabels? with
    | none =>
      rw [hls] at hl
      cases hl
    | some ls =>
      rw [hls] at hl
      exact hf.amp_not_mem_toLabels? hls l hl
  rw [FlowQuery.liftedClause]
  split
  · next src dst hpair =>
    rw [LabelFilter.amp_mem_render, not_or] at hlabel
    obtain ⟨hsrc, hdst⟩ := amp_not_mem_of_pair? hlabel.1 hpair
    simp [Clause.IsInner, LabelFilter.amp_mem_render, hsrc, hdst, hlabel.2]
  · exact List.forall_mem_singleton.mpr hlabel

/-! ### Additions -/

namespace Addition

/-- What is added does not end a parameter. -/
def IsInner : Addition → Prop
  | label f => '&' ∉ f.render.toList
  | line f => f.IsInner
  | clause c => c.IsInner

private theorem amp_not_mem_fieldsOf {c : Catalog} {key : String} (hk : '&' ∉ key.toList) :
    ∀ field ∈ FlowQuery.fieldsOf c key, '&' ∉ field.toList := by
  rw [FlowQuery.fieldsOf]
  split
  · next src dst hpair =>
    obtain ⟨hsrc, hdst⟩ := amp_not_mem_of_pair? hk hpair
    exact List.forall_mem_cons.mpr ⟨hsrc, List.forall_mem_singleton.mpr hdst⟩
  · exact List.forall_mem_singleton.mpr hk

/-- What a match adds does not end a parameter if the match does not. -/
theorem isInner_of_ofMatch {c : Catalog} {m : Match} (hk : '&' ∉ m.key.toList)
    (hv : '&' ∉ m.values.toList) {a : Addition} (h : ofMatch c m = .ok a) : a.IsInner := by
  have hnone : ¬∃ atom ∈ m.atoms, '&' ∈ atom.toList := by rwa [exists_amp_mem_atoms]
  have hatoms : ∀ atom ∈ m.atoms, '&' ∉ atom.toList := fun atom hatom hamp =>
    hnone ⟨atom, hatom, hamp⟩
  have hfields := amp_not_mem_fieldsOf (c := c) hk
  have hregex : '&' ∉ (LabelFilter.regex m.key m.values m.negated).render.toList := by
    simp [LabelFilter.amp_mem_render, LabelFilter.regex, hk, hv]
  have hofAtoms : ∀ key, '&' ∉ key.toList →
      '&' ∉ (LabelFilter.ofAtoms key m.atoms m.negated).render.toList := fun key hkey => by
    rw [LabelFilter.amp_mem_render, LabelFilter.amp_mem_ofAtoms, LabelFilter.key_ofAtoms, not_or]
    exact ⟨hkey, hnone⟩
  have hline : (FlowQuery.lineOf c m).map line = .ok a → a.IsInner := by
    intro h
    obtain ⟨f, hf, rfl⟩ := Outcome.map_eq_ok.mp h
    exact LineFilter.isInner_ofAtoms hk hatoms hf
  -- one case for each route, in the order in which they are tried
  rw [ofMatch] at h
  dsimp only at h
  split_ifs at h with _ _ _ _ _ _ _
  · cases h
    exact hregex
  · cases h
    exact List.forall_mem_singleton.mpr hregex
  · exact hline h
  · cases h
    exact hofAtoms m.key hk
  · cases h
    exact List.forall_mem_map.mpr fun field hfield => hofAtoms field (hfields field hfield)
  · cases h
    intro f hf
    obtain ⟨field, hfield, hf⟩ := List.mem_flatMap.mp hf
    obtain ⟨atom, hatom, rfl⟩ := List.mem_map.mp hf
    rw [LabelFilter.amp_mem_render, not_or]
    exact ⟨hfields field hfield, amp_not_mem_unquoted (hatoms atom hatom)⟩
  · cases h
    refine List.forall_mem_map.mpr fun field hfield => ?_
    rw [LabelFilter.amp_mem_render, LabelFilter.amp_mem_anyOf, not_or]
    exact ⟨hfields field hfield, hnone⟩
  · exact hline h

end Addition

/-! ### Queries -/

namespace FlowQuery

variable {q₀ q q' : FlowQuery} {required : List LineFilter} {as : List Addition}

/-- The text of a stage of matches does not end a parameter if no addition does. -/
theorem Stage.FromMatches.amp_not_mem_render {c : Catalog} {s : Stage} (hs : s.FromMatches c as)
    (has : ∀ a ∈ as, a.IsInner) : '&' ∉ s.render.toList := by
  have hstates : ∀ clause, States c as clause → '&' ∉ clause.render.toList := by
    intro clause hclause
    rcases hclause with hclause | ⟨f, hf, rfl⟩ | ⟨f, hf, hclause⟩
    · exact Clause.IsInner.render (has _ hclause)
    · exact has _ hf
    · exact (isInner_of_mem_lifted (has _ hf) clause hclause).render
  cases s with
  | line f => exact LineFilter.IsInner.render (has _ hs)
  | anyLine fs =>
    have hbodies : ∀ f ∈ fs, '&' ∉ ("(" ++ f.body ++ ")").toList := fun f hf => by
      simp [LineFilter.IsInner.body (has _ (hs f hf))]
    have hjoined := Url.amp_not_mem_join (by decide : '&' ∉ "|".toList)
      (List.forall_mem_map.mpr hbodies)
    simpa [Stage.render, LineFilter.stage] using hjoined
  | json => decide
  | clause c => simpa [Stage.render] using hstates c hs
  | anyClause cs =>
    have hjoined := Url.amp_not_mem_join (by decide : '&' ∉ " or ".toList)
      (List.forall_mem_map.mpr fun c hc => hstates c (hs c hc))
    simpa [Stage.render] using hjoined

/-- A query that selects streams has a text, which does not end a parameter if nothing that it holds
for all records and nothing that was added does. -/
theorem Built.amp_not_mem_body (h : Built q₀ required as q) (hselects : q₀.fixedLabels ≠ [])
    (hlabels : ∀ f ∈ q₀.fixedLabels, '&' ∉ f.render.toList)
    (hlines : ∀ f ∈ q₀.fixedLines ++ required, f.IsInner) (has : ∀ a ∈ as, a.IsInner)
    (forceJson : Bool) : ∃ text, q.body forceJson = .ok text ∧ '&' ∉ text.toList := by
  refine ⟨_, body_eq_stages q forceJson (h.fixedLabels ▸ hselects), ?_⟩
  have hstreams : '&' ∉ (streams (q.fixedLabels ++ q.labels)).toList := by
    have hall : ∀ f ∈ q.fixedLabels ++ q.labels, '&' ∉ f.render.toList := by
      rw [h.fixedLabels, List.forall_mem_append]
      exact ⟨hlabels, fun f hf => has _ (h.labels f hf)⟩
    have hjoined := Url.amp_not_mem_join (by decide : '&' ∉ ",".toList)
      (List.forall_mem_map.mpr hall)
    simpa [streams] using hjoined
  have hstages : ∀ s ∈ q.fixedLines.map Stage.line ++ q.matchStages forceJson,
      '&' ∉ s.render.toList := by
    rw [h.fixedLines, List.forall_mem_append, List.forall_mem_map]
    exact ⟨fun f hf => (hlines f hf).render,
      fun s hs => (h.fromMatches forceJson s hs).amp_not_mem_render has⟩
  rw [String.toList_append, List.mem_append, not_or]
  refine ⟨hstreams, ?_⟩
  rw [String.toList_join, List.mem_flatMap]
  rintro ⟨text, htext, hamp⟩
  obtain ⟨s, hs, rfl⟩ := List.mem_map.mp htext
  exact hstages s hs hamp

/-- The query of the options is built without additions. -/
theorem built_ofOptions (catalog : Catalog) (options : FlowOptions) :
    Built (ofOptions catalog options) [] [] (ofOptions catalog options) :=
  built_run (ofOptions catalog options) rfl rfl rfl []

/-- The line filters of fields come after those that are required already. -/
theorem Built.requireFields (h : Built q₀ required as q) (keys : List String) :
    Built q₀ (required ++ keys.map fun key => .presence key (q₀.catalog.needsStrictKey key)) as
      (keys.foldl FlowQuery.requireField q) := by
  induction keys generalizing required q with
  | nil =>
    rw [List.map_nil, List.append_nil]
    exact h
  | cons key keys ih =>
    rw [List.map_cons, List.append_cons]
    exact ih (h.requireField key)

/-- What matches add is held. -/
theorem Built.addMatches (h : Built q₀ required as q) {g : Group}
    (hg : g.foldlM FlowQuery.addMatch q = .ok q') :
    ∃ bs, (∀ b ∈ bs, ∃ m ∈ g, Addition.ofMatch q₀.catalog m = .ok b) ∧
      Built q₀ required (as ++ bs) q' := by
  rw [foldlM_addMatch, h.catalog] at hg
  obtain ⟨bs, hbs, rfl⟩ := Outcome.map_eq_ok.mp hg
  exact ⟨bs, fun b hb => Outcome.exists_of_mem_mapM hbs hb, h.addAll bs⟩

private theorem isInner_single {key : String} (hk : '&' ∉ key.toList) {v : LineValue}
    (hv : '&' ∉ v.text.toList) (strict negated allowEmpty : Bool) :
    LineFilter.IsInner ⟨key, strict, [v], negated, allowEmpty⟩ :=
  ⟨hk, List.forall_mem_singleton.mpr hv⟩

private theorem isInner_recordTypeLine (c : Catalog) (t : RecordType) :
    (recordTypeLine c t).IsInner := by
  have hvalues : ∀ value ∈ t.values, '&' ∉ value.toList := by
    cases t <;> decide
  refine ⟨(by decide : '&' ∉ Field.recordType.toList),
    List.forall_mem_map.mpr fun value hvalue => ?_⟩
  rw [Atom.amp_mem_pattern]
  exact hvalues value hvalue

/-- The line filters of the options do not end a parameter. -/
theorem isInner_fixedLines (catalog : Catalog) (options : FlowOptions) :
    ∀ f ∈ (ofOptions catalog options).fixedLines, f.IsInner := by
  have hdedup : ∀ f ∈ dedupLines options.dedup, f.IsInner := by
    cases options.dedup with
    | none => exact List.forall_mem_nil _
    | keepUnique | dropDuplicates =>
      exact List.forall_mem_singleton.mpr (isInner_single (by decide) (by decide) _ _ _)
  have hloss : ∀ f ∈ packetLossLines catalog options.packetLoss, f.IsInner := by
    cases options.packetLoss with
    | dropped =>
      refine List.forall_mem_cons.mpr ⟨?_, List.forall_mem_singleton.mpr ?_⟩
      · exact isInner_single (by decide) (by decide) _ _ _
      · exact isInner_single (by decide) (by decide) _ _ _
    | hasDrops | sent =>
      exact List.forall_mem_singleton.mpr (isInner_single (by decide) (by decide) _ _ _)
    | all => exact List.forall_mem_nil _
  intro f hf
  rw [ofOptions] at hf
  simp only [List.mem_append] at hf
  rcases hf with (hf | hf) | hf
  · exact hdedup f hf
  · split at hf
    · cases hf
    · obtain ⟨t, -, rfl⟩ := List.mem_map.mp hf
      exact isInner_recordTypeLine catalog t
  · exact hloss f hf

variable {catalog : Catalog} {options : FlowOptions} {g : Group}

/-- The query of matches that do not end a parameter has a text that does not either, for all and
for any of the matches. -/
theorem exists_inner_body (h : ofGroup catalog options g = .ok q)
    (hg : ∀ m ∈ g, '&' ∉ m.key.toList ∧ '&' ∉ m.values.toList) (any forceJson : Bool) :
    ∃ text, (q.matching any).body forceJson = .ok text ∧ '&' ∉ text.toList := by
  obtain ⟨as, has, hbuilt⟩ := (built_ofOptions catalog options).addMatches h
  have hany : Built (ofOptions catalog options) [] as (q.matching any) := by
    cases any with
    | false => exact hbuilt
    | true => exact hbuilt.matchAny
  refine hany.amp_not_mem_body (List.cons_ne_nil _ _) (amp_not_mem_fixedLabels catalog options) ?_
    (fun a ha => ?_) forceJson
  · rw [List.append_nil]
    exact isInner_fixedLines catalog options
  · obtain ⟨m, hm, ha⟩ := has a ha
    exact Addition.isInner_of_ofMatch (hg m hm).1 (hg m hm).2 ha

/-- A query for any of its matches has the options of the query. -/
theorem options_matching (q : FlowQuery) (any : Bool) : (q.matching any).options = q.options := by
  cases any with
  | false => rfl
  | true =>
    change q.matchAny.options = q.options
    rw [FlowQuery.matchAny]
    split_ifs <;> rfl

end FlowQuery

/-! ### Queries of measured values -/

namespace TopologyQuery

variable {catalog : Catalog} {options : FlowOptions} {metric : Metric.Options} {g : Group}
  {q : TopologyQuery}

private theorem amp_not_mem_requiredField (m : Metric.Measure) :
    ∀ key ∈ m.requiredField?.toList, '&' ∉ key.toList := by
  cases m <;> decide

private theorem exists_inner_records (h : ofGroup catalog options metric g = .ok q)
    (hg : ∀ m ∈ g, '&' ∉ m.key.toList ∧ '&' ∉ m.values.toList) (hmetric : metric.IsInner) :
    ∃ records, q.flow.body true = .ok records ∧ '&' ∉ records.toList := by
  rw [ofGroup] at h
  obtain ⟨flow, hflow, h⟩ := Outcome.bind_eq_ok.mp h
  cases h
  have hrequired : ∀ key ∈ (if metric.aggregate.custom then [metric.aggregate.key] else []) ++
      metric.measure.requiredField?.toList, '&' ∉ key.toList := by
    refine List.forall_mem_append.mpr ⟨?_, amp_not_mem_requiredField metric.measure⟩
    split
    · next hcustom => exact List.forall_mem_singleton.mpr (hmetric.key hcustom)
    · exact List.forall_mem_nil _
  have hoptions := (FlowQuery.built_ofOptions catalog { options with limit := none }).requireFields
    ((if metric.aggregate.custom then [metric.aggregate.key] else []) ++
      metric.measure.requiredField?.toList)
  obtain ⟨as, has, hbuilt⟩ := hoptions.addMatches hflow
  refine hbuilt.amp_not_mem_body (List.cons_ne_nil _ _)
    (FlowQuery.amp_not_mem_fixedLabels catalog _) ?_ (fun a ha => ?_) true
  · rw [List.nil_append, List.forall_mem_append, List.forall_mem_map]
    exact ⟨FlowQuery.isInner_fixedLines catalog _,
      fun key hkey => ⟨hrequired key hkey, List.forall_mem_nil _⟩⟩
  · obtain ⟨m, hm, ha⟩ := has a ha
    exact Addition.isInner_of_ofMatch (hg m hm).1 (hg m hm).2 ha

/-- The query of matches and options that do not end a parameter has a text that does not either. -/
theorem exists_inner_body (h : ofGroup catalog options metric g = .ok q)
    (hg : ∀ m ∈ g, '&' ∉ m.key.toList ∧ '&' ∉ m.values.toList) (hmetric : metric.IsInner) :
    ∃ text, q.body = .ok text ∧ '&' ∉ text.toList := by
  obtain ⟨records, hrecords, hamp⟩ := exists_inner_records h hg hmetric
  obtain ⟨-, -, hq⟩ := fixed_ofGroup h
  have hunwrap : '&' ∉ (unwrapStage metric).toList := by
    have hname : '&' ∉ metric.measure.name.toList := by
      cases metric.measure <;> decide
    rw [unwrapStage]
    split <;> simp [hname]
  rw [body, hrecords, hq]
  refine ⟨_, rfl, ?_⟩
  have hoperator := Url.amp_not_mem_topOperator metric.effectiveFunction
  have hrange := Url.amp_not_mem_rangeFunction metric.effectiveFunction
  have hquantile := Url.amp_not_mem_quantile metric.effectiveFunction
  have hjoined : '&' ∉ metric.aggregate.joined.toList := Url.amp_not_mem_joined hmetric.labels
  have htop : '&' ∉ Nat.toDigits 10 metric.top := by
    simpa using Url.amp_not_mem_toString metric.top
  simp [hoperator, hrange, hquantile, hjoined, htop, hamp, hunwrap, hmetric.rateInterval]

end TopologyQuery

end LogQL

end FlowConsole
