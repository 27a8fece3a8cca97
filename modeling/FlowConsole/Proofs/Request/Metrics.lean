import FlowConsole.Proofs.Dictionary
import FlowConsole.Proofs.Filter.Admitted
import FlowConsole.Request.Metrics

/-!
# What requests for metrics hold

A request that is read holds admitted matches only, labels that can stand in a query, and a rate
interval of letters and digits (`sound_of_read`). The namespace is the only text of the request that
is taken as it comes.
-/

open FlowConsole.Text (Consists)

namespace FlowConsole

/-- The text of a duration is made of letters and digits. -/
theorem Duration.consists_render (d : Duration) : Consists Char.isAlphanum d.render := by
  have hpart (p : Part) (c : Char) (hc : c ∈ p.render) : c.isAlphanum = true := by
    rw [Part.render, List.mem_append] at hc
    rcases hc with hc | hc
    · have hdigit : c.isDigit = true := Nat.isDigit_of_mem_toDigits (by decide) (by decide) hc
      rw [Char.isAlphanum, hdigit, Bool.or_true]
    · have hsymbol : p.unit.symbol.all Char.isAlphanum = true := by
        cases p.unit <;> rfl
      exact List.all_eq_true.mp hsymbol c hc
  rw [Duration.render, Text.consists_ofList]
  intro c hc
  obtain ⟨p, -, hc⟩ := List.mem_flatMap.mp hc
  exact hpart p c hc

namespace Metric.Aggregate

/-- A label that is not the field of the key is made of letters, digits and underscores. -/
def Regular (a : Aggregate) : Prop :=
  ∀ label ∈ a.labels, (a.custom = true ∧ label = a.key) ∨
    Consists Request.Metrics.isFieldChar label

private theorem mem_foldl_addLabel {labels more : List String} {label : String}
    (h : label ∈ more.foldl addLabel labels) : label ∈ labels ∨ label ∈ more := by
  induction more generalizing labels with
  | nil => exact .inl h
  | cons l more ih =>
    rcases ih h with h | h
    · rw [addLabel] at h
      split at h
      · exact .inl h
      · rcases List.mem_append.mp h with h | h
        · exact .inl h
        · rw [List.mem_singleton.mp h]
          exact .inr List.mem_cons_self
    · exact .inr (List.mem_cons_of_mem l h)

/-- The aggregation of a scope or a field is regular. -/
theorem regular_ofKey {key : String} {a : Aggregate} (h : ofKey key = .ok a) : a.Regular := by
  have hscopes : ∀ e ∈ scopes, ∀ label ∈ e.2, Consists Request.Metrics.isFieldChar label := by
    decide +kernel
  intro label hlabel
  rw [ofKey] at h
  split at h
  · next labels hlookup =>
    cases h
    exact .inr (hscopes _ (Dictionary.mem_of_find? hlookup) label hlabel)
  · split at h
    · cases h
    · cases h
      exact .inl ⟨rfl, List.mem_singleton.mp hlabel⟩

/-- A group adds regular labels. -/
theorem Regular.addGroup {a b : Aggregate} (ha : a.Regular) {word : String}
    (h : a.addGroup word = .ok b) : b.Regular := by
  have hgroups : ∀ e ∈ groups, ∀ label ∈ e.2, Consists Request.Metrics.isFieldChar label := by
    decide +kernel
  rw [Aggregate.addGroup] at h
  split at h
  · next labels hlookup =>
    cases h
    intro label hlabel
    rcases mem_foldl_addLabel hlabel with hlabel | hlabel
    · exact ha label hlabel
    · exact .inr (hgroups _ (Dictionary.mem_of_find? hlookup) label hlabel)
  · cases h

/-- Groups add regular labels. -/
theorem Regular.addGroups {a b : Aggregate} (ha : a.Regular) {words : List String}
    (h : words.foldlM Aggregate.addGroup a = .ok b) : b.Regular := by
  induction words generalizing a with
  | nil =>
    cases h
    exact ha
  | cons word words ih =>
    rw [List.foldlM_cons] at h
    obtain ⟨c, hc, h⟩ := Outcome.bind_eq_ok.mp h
    exact ih (ha.addGroup hc) h

/-- An aggregation that is read is regular. -/
theorem regular_of_parse {key : String} {groups : Option String} {a : Aggregate}
    (h : parse key groups = .ok a) : a.Regular := by
  obtain ⟨b, hb, h⟩ := Outcome.bind_eq_ok.mp h
  cases groups with
  | none =>
    cases h
    exact regular_ofKey hb
  | some words => exact (regular_ofKey hb).addGroups h

end Metric.Aggregate

namespace Request.Metrics

/-- A request without a namespace holds texts that can stand in a query. -/
structure Sound (r : Metrics) : Prop where
  filters : ∀ g ∈ r.filters, ∀ m ∈ g, m.Admitted
  labels : ∀ label ∈ r.metric.aggregate.labels, Consists isFieldChar label
  rateInterval : Consists Char.isAlphanum r.metric.rateInterval

/-- The labels of an aggregation that is read can stand in a query, and so can a custom field. -/
theorem consists_of_readAggregate {ps : Parameters} {a : Metric.Aggregate}
    (h : readAggregate ps = .ok a) :
    (∀ label ∈ a.labels, Consists isFieldChar label) ∧
      (a.custom = true → Consists isFieldChar a.key) := by
  obtain ⟨key, -, h⟩ := Outcome.bind_eq_ok.mp h
  obtain ⟨b, hb, h⟩ := Outcome.bind_eq_ok.mp h
  have hregular : b.Regular :=
    Metric.Aggregate.regular_of_parse (Outcome.mapError_eq_ok.mp hb)
  split at h
  · cases h
  · next hfield =>
    cases h
    have hkey : a.custom = true → Consists isFieldChar a.key := by
      intro hcustom
      rw [hcustom, Bool.true_and, Bool.not_eq_true, Bool.not_eq_false', isField,
        Bool.and_eq_true] at hfield
      exact List.all_eq_true.mp hfield.2
    refine ⟨fun label hlabel => ?_, hkey⟩
    rcases hregular label hlabel with ⟨hcustom, rfl⟩ | hchars
    · exact hkey hcustom
    · exact hchars

/-- Every part of the request but its windows is what its parameters are read as. -/
structure ReadsRest (ps : Parameters) (r : Metrics) : Prop where
  limit : ps.limit = .ok r.metric.top
  step : ∃ d, ps.duration "step" "30s" = .ok d ∧ d.render = r.metric.step
  rateInterval : ∃ d, ps.duration "rateInterval" "2m" = .ok d ∧ d.render = r.metric.rateInterval
  measure : readMeasure ps = .ok r.metric.measure
  function : ∃ f, ps.word? "function" Metric.Function.parse = .ok f ∧
    f.getD .rate = r.metric.function
  aggregate : readAggregate ps = .ok r.metric.aggregate
  dedup : ∃ on, ps.flag "dedup" = .ok on ∧
    (if on then LogQL.Dedup.dropDuplicates else .none) = r.flow.dedup
  recordType : ps.recordType? = .ok r.flow.recordType
  packetLoss : ps.packetLoss = .ok r.flow.packetLoss
  filters : ps.filters = .ok r.filters
  source : SourceChoice.parse ((ps.get? "dataSource").getD "") = .ok r.source
  layer : ps.word? "layer" Layer.parse = .ok r.layer
  reporter : ∃ o, ps.word? "reporter" readReporter = .ok o ∧ o.getD .both = r.reporter
  namespaceName : ps.given? "namespace" = r.namespaceName
  flowLimit : r.flow.limit = some r.metric.top

/-- Every part of the request is what its parameters are read as at the time `now`. -/
structure ReadsFrom (ps : Parameters) (now : Int) (r : Metrics) : Prop extends ReadsRest ps r where
  window : Window.read ps now = .ok ⟨r.flow.start, r.flow.finish⟩
  promWindow : closedWindow ⟨r.flow.start, r.flow.finish⟩ now = .ok r.promWindow

/-- The request with other windows. -/
def withWindows (r : Metrics) (w : Window) (p : PromQL.Window) : Metrics :=
  { r with flow := { r.flow with start := w.start, finish := w.finish }, promWindow := p }

/-- Where the rest of a request is read, the request is read as its windows are. -/
theorem ReadsRest.read_eq {ps : Parameters} {r : Metrics} (h : ReadsRest ps r) (now : Int) :
    read ps now = (do
      let w ← accept (Window.read ps now)
      let p ← accept (closedWindow w now)
      return r.withWindows w p) := by
  obtain ⟨step, hstep, hstepText⟩ := h.step
  obtain ⟨interval, hinterval, hintervalText⟩ := h.rateInterval
  obtain ⟨function, hfunction, hfunctionOr⟩ := h.function
  obtain ⟨on, hdedup, hdedupOr⟩ := h.dedup
  obtain ⟨reporter, hreporter, hreporterOr⟩ := h.reporter
  rw [read]
  cases Window.read ps now with
  | error e => rfl
  | ok w =>
    simp only [h.limit, hstep, hinterval, h.measure, hfunction, h.aggregate, hdedup, h.recordType,
      h.packetLoss, h.filters, h.source, h.layer, hreporter, accept, Except.mapError,
      Outcome.ok_bind]
    rw [hstepText, hintervalText, hfunctionOr, hdedupOr, hreporterOr, h.namespaceName,
      ← h.flowLimit]
    cases closedWindow w now <;> rfl

/-- A request is read exactly if every part of it can be. -/
theorem read_eq_ok {ps : Parameters} {now : Int} {r : Metrics} :
    read ps now = .ok r ↔ ReadsFrom ps now r := by
  constructor
  · intro h
    rw [read] at h
    obtain ⟨window, hwindow, h⟩ := Outcome.bind_eq_ok.mp h
    obtain ⟨top, htop, h⟩ := Outcome.bind_eq_ok.mp h
    obtain ⟨step, hstep, h⟩ := Outcome.bind_eq_ok.mp h
    obtain ⟨rateInterval, hinterval, h⟩ := Outcome.bind_eq_ok.mp h
    obtain ⟨measure, hmeasure, h⟩ := Outcome.bind_eq_ok.mp h
    obtain ⟨function, hfunction, h⟩ := Outcome.bind_eq_ok.mp h
    obtain ⟨aggregate, haggregate, h⟩ := Outcome.bind_eq_ok.mp h
    obtain ⟨dedup, hdedup, h⟩ := Outcome.bind_eq_ok.mp h
    obtain ⟨promWindow, hprom, h⟩ := Outcome.bind_eq_ok.mp h
    obtain ⟨recordType, hrecord, h⟩ := Outcome.bind_eq_ok.mp h
    obtain ⟨packetLoss, hloss, h⟩ := Outcome.bind_eq_ok.mp h
    obtain ⟨filters, hfilters, h⟩ := Outcome.bind_eq_ok.mp h
    obtain ⟨source, hsource, h⟩ := Outcome.bind_eq_ok.mp h
    obtain ⟨layer, hlayer, h⟩ := Outcome.bind_eq_ok.mp h
    obtain ⟨reporter, hreporter, h⟩ := Outcome.bind_eq_ok.mp h
    cases h
    exact {
      window := Outcome.mapError_eq_ok.mp hwindow
      limit := Outcome.mapError_eq_ok.mp htop
      step := ⟨step, Outcome.mapError_eq_ok.mp hstep, rfl⟩
      rateInterval := ⟨rateInterval, Outcome.mapError_eq_ok.mp hinterval, rfl⟩
      measure := hmeasure
      function := ⟨function, Outcome.mapError_eq_ok.mp hfunction, rfl⟩
      aggregate := haggregate
      dedup := ⟨dedup, Outcome.mapError_eq_ok.mp hdedup, rfl⟩
      promWindow := Outcome.mapError_eq_ok.mp hprom
      recordType := hrecord
      packetLoss := hloss
      filters := hfilters
      source := Outcome.mapError_eq_ok.mp hsource
      layer := Outcome.mapError_eq_ok.mp hlayer
      reporter := ⟨reporter, Outcome.mapError_eq_ok.mp hreporter, rfl⟩
      namespaceName := rfl
      flowLimit := rfl }
  · intro h
    rw [h.toReadsRest.read_eq, h.window]
    refine Outcome.bind_eq_ok.mpr ⟨_, rfl, ?_⟩
    rw [h.promWindow]
    rfl

/-- A request that is read is sound. Its namespace is the one that is given, unless that is
empty. -/
theorem sound_of_read {ps : Parameters} {now : Int} {r : Metrics} (h : read ps now = .ok r) :
    r.Sound ∧ r.namespaceName = ps.given? "namespace" := by
  have hread := read_eq_ok.mp h
  refine ⟨⟨?_, (consists_of_readAggregate hread.aggregate).1, ?_⟩, hread.namespaceName.symm⟩
  · exact fun g hg m hm => Filter.admitted_of_parse (Outcome.mapError_eq_ok.mp hread.filters) hg hm
  · obtain ⟨d, -, hinterval⟩ := hread.rateInterval
    rw [← hinterval]
    exact d.consists_render

/-- The step of a request that is read is made of letters and digits, and its field to group by can
stand in a query. -/
theorem consists_of_read {ps : Parameters} {now : Int} {r : Metrics} (h : read ps now = .ok r) :
    Consists Char.isAlphanum r.metric.step ∧
      (r.metric.aggregate.custom = true → Consists isFieldChar r.metric.aggregate.key) := by
  have hread := read_eq_ok.mp h
  refine ⟨?_, (consists_of_readAggregate hread.aggregate).2⟩
  obtain ⟨d, -, hstep⟩ := hread.step
  rw [← hstep]
  exact d.consists_render

end Request.Metrics

end FlowConsole
