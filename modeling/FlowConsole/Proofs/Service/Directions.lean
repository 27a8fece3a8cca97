import FlowConsole.Proofs.Outcome
import FlowConsole.Proofs.PromQL.Answering
import FlowConsole.Service.Planning

/-!
# Directions of planned queries

With both reporters, a query of the log store counts a flow once only if its group asks for a
direction. Groups without one are split by direction, except those that the metric store answers;
whether it does is asked before the group is scoped to a namespace, and again afterwards, to choose
the store. The scope asks for one more label. So all queries of the log store ask for a direction
exactly if every answered group is also answered by metrics with the labels of the namespaces
(`loki_directed_iff`), which is not so in general (`loki_undirected`).
-/

open FlowConsole.Filter (Expression Group Match)

namespace FlowConsole.Service.State

/-! ### Scoped groups -/

/-- The fields of the namespaces of both ends. -/
def namespaceFields : List String := [Field.sourceNamespace, Field.destinationNamespace]

/-- The match that scopes a group to a namespace. -/
def scopeMatch (name field : String) : Match := { key := field, values := "\"" ++ name ++ "\"" }

/-- The groups of a scoped expression. -/
theorem mem_scopeNamespace {e : Expression} {name : String} {g : Group} :
    g ∈ Reporter.scopeNamespace e name ↔
      ∃ h ∈ e, ∃ field ∈ namespaceFields, g = scopeMatch name field :: h := by
  simp [Reporter.scopeNamespace, Reporter.exactly, Expression.distribute, namespaceFields,
    scopeMatch]

/-- The groups of an expression whose groups are split by direction. -/
theorem mem_splitDirections {e : Expression} {isHandled : Group → Bool} {g : Group} :
    g ∈ Reporter.splitDirections e isHandled ↔
      (g ∈ e ∧ (g.hasKey Field.flowDirection || isHandled g) = true) ∨
      ∃ h ∈ e, (h.hasKey Field.flowDirection || isHandled h) = false ∧
        ∃ half ∈ [Reporter.received, Reporter.sent], g = half ++ h := by
  rw [Reporter.splitDirections, Expression.distribute, List.mem_flatMap]
  constructor
  · rintro ⟨h, hh, hg⟩
    split at hg
    · next hk =>
      rw [List.mem_singleton] at hg
      exact .inl ⟨hg ▸ hh, hg ▸ hk⟩
    · next hk =>
      obtain ⟨half, hm, rfl⟩ := List.mem_map.mp hg
      exact .inr ⟨h, hh, Bool.eq_false_iff.mpr hk, half, hm, rfl⟩
  · rintro (⟨hg, hk⟩ | ⟨h, hh, hk, half, hm, rfl⟩)
    · exact ⟨g, hg, by rw [if_pos hk]; exact List.mem_singleton_self g⟩
    · refine ⟨h, hh, ?_⟩
      rw [if_neg (by rw [hk]; exact Bool.false_ne_true)]
      exact List.mem_map.mpr ⟨half, hm, rfl⟩

/-- Both halves of a split group ask for a direction. -/
theorem hasKey_half {half g : Group} (h : half ∈ [Reporter.received, Reporter.sent]) :
    Group.hasKey (half ++ g) Field.flowDirection = true := by
  rw [Group.hasKey, List.any_append]
  rw [List.mem_cons, List.mem_singleton] at h
  rcases h with rfl | rfl <;> rfl

/-- The group that remains undirected after the split was there before, and is answered. -/
theorem undirected_splitDirections {e : Expression} {isHandled : Group → Bool} {g : Group}
    (hg : g.hasKey Field.flowDirection = false) :
    g ∈ Reporter.splitDirections e isHandled ↔ g ∈ e ∧ isHandled g = true := by
  rw [mem_splitDirections, hg, Bool.false_or]
  constructor
  · rintro (h | ⟨h, -, -, half, hm, rfl⟩)
    · exact h
    · rw [hasKey_half hm] at hg
      cases hg
  · exact .inl

/-- The fields of the namespaces are not the direction. -/
theorem ne_flowDirection {field : String} (h : field ∈ namespaceFields) :
    field ≠ Field.flowDirection := by
  revert field
  decide

/-- The scope of a namespace asks for no direction. -/
theorem hasKey_scopeMatch {name field : String} (h : field ∈ namespaceFields) (g : Group) :
    Group.hasKey (scopeMatch name field :: g) Field.flowDirection =
      g.hasKey Field.flowDirection := by
  have hne : (field == Field.flowDirection) = false := by simpa using ne_flowDirection h
  rw [Group.hasKey, List.any_cons]
  exact (congrArg (· || _) hne).trans (Bool.false_or _)

/-- A scoped group is answered by the metrics that answer the group and have the label. -/
theorem answers_scopeMatch {name field : String} (h : field ∈ namespaceFields) (g : Group)
    (x : PromQL.MetricInfo) (o : Metric.Options) :
    x.Answers (scopeMatch name field :: g) o ↔ x.Answers g o ∧ field ∈ x.labels := by
  apply PromQL.answers_cons
  · rw [PromQL.MetricNeed.directionOf?, if_neg]
    rintro ⟨hk, -⟩
    exact ne_flowDirection h hk
  · rfl

/-! ### The choice of the store -/

variable {s : State} {r : Request.Metrics}

/-- The metric store may be asked. -/
def AsksMetrics (s : State) (r : Request.Metrics) : Prop := r.source ≠ .loki ∧ s.stores.prom = true

/-- There is a metric for a group if the metric store may be asked and has one that answers. -/
theorem metricFor?_isSome_iff (g : Group) :
    (s.metricFor? r g).isSome = true ↔
      s.AsksMetrics r ∧ ∃ x ∈ s.config.inventory, x.Answers g r.metric := by
  rw [metricFor?, AsksMetrics]
  by_cases h : r.source = .loki ∨ (!s.stores.prom) = true
  · rw [if_pos h]
    constructor
    · intro hs
      cases hs
    · rintro ⟨⟨hl, hp⟩, -⟩
      rcases h with h | h
      · exact absurd h hl
      · rw [hp] at h
        cases h
  · rw [if_neg h, PromQL.plan?_isSome_iff]
    rw [not_or, Bool.not_eq_true, Bool.not_eq_false'] at h
    exact (and_iff_right h).symm

/-- A query goes to the log store exactly if there is no metric for its group. -/
theorem source_of_planGroup {g : Group} {q : StoreQuery} (h : s.planGroup r g = .ok q) :
    q.source = .loki ↔ (s.metricFor? r g).isSome = false := by
  rw [planGroup] at h
  cases hm : s.metricFor? r g with
  | some x =>
    rw [hm] at h
    obtain ⟨url, -, h⟩ := Outcome.bind_eq_ok.mp h
    cases h
    simp
  | none =>
    rw [hm] at h
    dsimp only at h
    split at h
    · cases h
    · obtain ⟨base, -, h⟩ := Outcome.bind_eq_ok.mp h
      obtain ⟨query, -, h⟩ := Outcome.bind_eq_ok.mp h
      obtain ⟨url, -, h⟩ := Outcome.bind_eq_ok.mp h
      cases h
      simp

/-- A plan has one query for every group. -/
theorem planned_of_planMetrics {qs : List StoreQuery} (h : s.planMetrics r = .ok qs) :
    List.Forall₂ (fun g q => s.planGroup r g = .ok q) (s.withReporter r (withLayer r)) qs := by
  rw [planMetrics] at h
  split at h
  · cases h
  · exact Outcome.mapM_eq_ok.mp h

/-! ### Directions -/

/-- Every group without a direction that is answered is also answered, for each namespace field, by
a metric with that label. -/
def NamespacesAnswered (s : State) (r : Request.Metrics) : Prop :=
  ∀ g ∈ withLayer r, g.hasKey Field.flowDirection = false → (s.metricFor? r g).isSome = true →
    ∀ field ∈ namespaceFields, ∃ x ∈ s.config.inventory, x.Answers g r.metric ∧ field ∈ x.labels

private theorem metricFor?_scopeMatch (name : String) {field : String}
    (hf : field ∈ namespaceFields) {g : Group} (ha : s.AsksMetrics r) :
    (s.metricFor? r (scopeMatch name field :: g)).isSome = true ↔
      ∃ x ∈ s.config.inventory, x.Answers g r.metric ∧ field ∈ x.labels := by
  rw [metricFor?_isSome_iff, and_iff_right ha]
  simp only [answers_scopeMatch hf]

section

variable (hl : s.config.catalog.isLabel Field.flowDirection = true)
  (hm : s.config.frontend.deduper.merge = false) (hr : r.reporter = .both)

include hl hm hr

private theorem withReporter_both (e : Expression) :
    s.withReporter r e =
      Reporter.expand e r.namespaceName fun g => (s.metricFor? r g).isSome := by
  rw [withReporter, if_pos hr, hm, hl]
  rfl

private theorem directed_of_unscoped (hn : r.namespaceName = none) {g : Group}
    (hg : g ∈ s.withReporter r (withLayer r)) (hs : (s.metricFor? r g).isSome = false) :
    g.hasKey Field.flowDirection = true := by
  rw [withReporter_both hl hm hr, hn] at hg
  cases hd : g.hasKey Field.flowDirection with
  | true => rfl
  | false =>
    have hh := ((undirected_splitDirections hd).mp hg).2
    rw [hs] at hh
    cases hh

private theorem undirected_of_scoped {name : String} (hn : r.namespaceName = some name)
    (g : Group) :
    g ∈ s.withReporter r (withLayer r) ∧ g.hasKey Field.flowDirection = false ↔
      ∃ h ∈ withLayer r, h.hasKey Field.flowDirection = false ∧
        (s.metricFor? r h).isSome = true ∧
        ∃ field ∈ namespaceFields, g = scopeMatch name field :: h := by
  rw [withReporter_both hl hm hr, hn]
  constructor
  · rintro ⟨hg, hd⟩
    obtain ⟨h, hh, field, hf, rfl⟩ := mem_scopeNamespace.mp hg
    rw [hasKey_scopeMatch hf] at hd
    have hh := (undirected_splitDirections hd).mp hh
    exact ⟨h, hh.1, hd, hh.2, field, hf, rfl⟩
  · rintro ⟨h, he, hd, hs, field, hf, rfl⟩
    have hh : h ∈ Reporter.splitDirections (withLayer r) fun g => (s.metricFor? r g).isSome :=
      (undirected_splitDirections hd).mpr ⟨he, hs⟩
    exact ⟨mem_scopeNamespace.mpr ⟨h, hh, field, hf, rfl⟩, by rw [hasKey_scopeMatch hf, hd]⟩

end

/-- Where flows are counted by their directions, every planned query is built for its group, and
those of the log store are all built for groups that ask for a direction exactly if the request has
no namespace or its groups are answered with the labels of the namespaces too. -/
theorem loki_directed_iff {qs : List StoreQuery}
    (hl : s.config.catalog.isLabel Field.flowDirection = true)
    (hm : s.config.frontend.deduper.merge = false) (hr : r.reporter = .both)
    (hq : s.planMetrics r = .ok qs) :
    List.Forall₂ (fun g q => s.planGroup r g = .ok q) (s.withReporter r (withLayer r)) qs ∧
      ((∀ g ∈ s.withReporter r (withLayer r), ∀ q, s.planGroup r g = .ok q → q.source = .loki →
          g.hasKey Field.flowDirection = true) ↔
        r.namespaceName = none ∨ s.NamespacesAnswered r) := by
  have hplan := planned_of_planMetrics hq
  refine ⟨hplan, ?_⟩
  cases hn : r.namespaceName with
  | none =>
    rw [eq_self, true_or, iff_true]
    intro g hg q hgq hsrc
    exact directed_of_unscoped hl hm hr hn hg ((source_of_planGroup hgq).mp hsrc)
  | some name =>
    rw [or_iff_right (Option.some_ne_none name)]
    constructor
    -- the scoped copies of an answered group are planned too, and none of them has a direction
    · intro hall h hh hd hs field hf
      have ha := ((metricFor?_isSome_iff h).mp hs).1
      rw [← metricFor?_scopeMatch name hf ha]
      obtain ⟨hg, hgd⟩ := (undirected_of_scoped hl hm hr hn _).mpr ⟨h, hh, hd, hs, field, hf, rfl⟩
      obtain ⟨q, -, hgq⟩ := Outcome.exists_of_forall₂ hplan hg
      by_contra hne
      have hsrc := (source_of_planGroup hgq).mpr (Bool.eq_false_iff.mpr hne)
      rw [hall _ hg q hgq hsrc] at hgd
      cases hgd
    · intro hcov g hg q hgq hsrc
      cases hd : g.hasKey Field.flowDirection with
      | true => rfl
      | false =>
        obtain ⟨h, hh, hhd, hs, field, hf, rfl⟩ :=
          (undirected_of_scoped hl hm hr hn g).mp ⟨hg, hd⟩
        have ha := ((metricFor?_isSome_iff h).mp hs).1
        have hsome := (metricFor?_scopeMatch name hf ha).mpr
          (hcov h hh hhd hs field hf)
        rw [(source_of_planGroup hgq).mp hsrc] at hsome
        cases hsome

/-- A state whose one metric counts bytes and has the given labels. -/
def bytesState (labels : List String) : State :=
  .ofConfig
    { loki :=
        { url := "http://loki:3100"
          labels := ["SrcK8S_Namespace", "DstK8S_Namespace", "FlowDirection"] }
      prometheus :=
        { url := "http://prom:9090"
          metrics := [{ name := "node_bytes", kind := .counter, measure := .bytes, labels }] } }

/-- A state whose metric has the labels of the hosts. -/
def hostState : State := bytesState ["DstK8S_HostName", "SrcK8S_HostName"]

/-- A state whose metric has the labels of the hosts and of the namespaces. -/
def namespaceState : State :=
  bytesState ["DstK8S_HostName", "DstK8S_Namespace", "SrcK8S_HostName", "SrcK8S_Namespace"]

/-- A request for the rate of bytes by hosts in a namespace, from both reporters. -/
def hostRequest : Request.Metrics where
  flow := {}
  metric :=
    { top := 100, step := "30s", rateInterval := "2m", measure := .bytes, function := .rate
      aggregate := ⟨"host", Metric.Aggregate.hostLabels, false⟩ }
  promWindow := ⟨0, 300⟩
  filters := [[]]
  source := .auto
  layer := none
  reporter := .both
  namespaceName := some "ns"

/-- All queries of the log store ask for a direction if the metric has the labels of the
namespaces. -/
theorem loki_directed_namespaceState :
    ∃ qs, namespaceState.planMetrics hostRequest = .ok qs ∧
      ((∀ g ∈ namespaceState.withReporter hostRequest (withLayer hostRequest), ∀ q,
          namespaceState.planGroup hostRequest g = .ok q → q.source = .loki →
            g.hasKey Field.flowDirection = true) ↔
        hostRequest.namespaceName = none ∨ namespaceState.NamespacesAnswered hostRequest) := by
  have hok : (namespaceState.planMetrics hostRequest).isOk = true := by decide +kernel
  obtain ⟨qs, hq⟩ := Outcome.exists_of_isOk hok
  exact ⟨qs, hq, (loki_directed_iff (by decide +kernel) rfl rfl hq).2⟩

/-- A metric with the labels of the hosts alone answers the request, but not for the namespace: a
query goes to the log store for a group that asks for no direction. -/
theorem loki_undirected :
    hostState.config.catalog.isLabel Field.flowDirection = true ∧
      hostState.config.frontend.deduper.merge = false ∧ hostRequest.reporter = .both ∧
      ∃ qs, hostState.planMetrics hostRequest = .ok qs ∧
        ∃ g ∈ hostState.withReporter hostRequest (withLayer hostRequest), ∃ q ∈ qs,
          hostState.planGroup hostRequest g = .ok q ∧ q.source = .loki ∧
            g.hasKey Field.flowDirection = false := by
  refine ⟨by decide +kernel, rfl, rfl, ?_⟩
  have hok : (hostState.planMetrics hostRequest).isOk = true := by decide +kernel
  obtain ⟨qs, hq⟩ := Outcome.exists_of_isOk hok
  have hg : scopeMatch "ns" Field.sourceNamespace :: [] ∈
      hostState.withReporter hostRequest (withLayer hostRequest) := by decide +kernel
  obtain ⟨q, hmem, hgq⟩ := Outcome.exists_of_forall₂ (planned_of_planMetrics hq) hg
  refine ⟨qs, hq, _, hg, q, hmem, hgq, ?_, by decide⟩
  exact (source_of_planGroup hgq).mpr (by decide +kernel)

end FlowConsole.Service.State
