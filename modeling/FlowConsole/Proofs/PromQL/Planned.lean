import FlowConsole.PromQL.Query
import FlowConsole.Proofs.Outcome
import FlowConsole.Proofs.PromQL.Answering

/-!
# Queries of planned metrics

A metric that is planned for a group has a query, whatever the window, and carries every label that
the query names (`plan?_sound`). The direction field is the delicate one: matches on it are folded
into one direction when the metric is looked for, and are left out again when the query is built.
-/

open FlowConsole.Filter (Group Match)

namespace FlowConsole.PromQL

/-! ### Directions -/

/-- A value that names a direction names one of the three. -/
theorem ne_any_of_ofCode? {code : String} {d : Direction} (h : Direction.ofCode? code = some d) :
    d ≠ .any := by
  rintro rfl
  rw [Direction.ofCode?] at h
  split_ifs at h <;> cases h

/-- A match that asks for a direction is one on the direction field. -/
theorem key_of_directionOf? {m : Match} {d : Direction} (h : MetricNeed.directionOf? m = some d) :
    m.key = Field.flowDirection ∧ d ≠ .any := by
  rw [MetricNeed.directionOf?] at h
  split at h
  · next hc =>
    refine ⟨hc.1, ?_⟩
    split at h
    · exact ne_any_of_ofCode? h
    · cases h
  · cases h

/-- A group with a match that asks for a direction needs one. -/
theorem directionOf_ne_any {g : Group} {m : Match} {d : Direction} (hm : m ∈ g)
    (h : MetricNeed.directionOf? m = some d) : MetricNeed.directionOf g ≠ .any := by
  have hd : d ∈ g.filterMap MetricNeed.directionOf? := List.mem_filterMap.mpr ⟨m, hm, h⟩
  have hne : g.filterMap MetricNeed.directionOf? ≠ [] := List.ne_nil_of_mem hd
  rw [MetricNeed.directionOf, List.getLast?_eq_some_getLast hne, Option.getD_some]
  obtain ⟨n, -, hn⟩ := List.mem_filterMap.mp (List.getLast_mem hne)
  exact (key_of_directionOf? hn).2

/-- A metric of all directions that answers a group has the field of each match of the group. -/
theorem MetricInfo.Answers.key_mem_of_any {x : MetricInfo} {g : Group} {o : Metric.Options}
    (h : x.Answers g o) (hx : x.direction = .any) {m : Match} (hm : m ∈ g) : m.key ∈ x.labels := by
  obtain ⟨-, -, -, -, hdir, hlabels⟩ := (answers_iff x g o).mp h
  cases hd : MetricNeed.directionOf? m with
  | none =>
    apply hlabels
    rw [MetricNeed.labelsOf, List.mem_append, List.mem_map]
    exact .inr ⟨m, List.mem_filter.mpr ⟨hm, by rw [hd]; rfl⟩, rfl⟩
  | some d =>
    have hne := directionOf_ne_any hm hd
    rw [MetricInfo.hasDirection, hx] at hdir
    rw [(key_of_directionOf? hd).1]
    have heq : (Direction.any == MetricNeed.directionOf g) = false :=
      beq_eq_false_iff_ne.mpr hne.symm
    rw [heq, Bool.false_or, Bool.and_eq_true] at hdir
    exact List.contains_iff_mem.mp hdir.2

/-- A metric that answers a group has the field of each match of the group that is on another field
than the direction. -/
theorem MetricInfo.Answers.key_mem_of_ne {x : MetricInfo} {g : Group} {o : Metric.Options}
    (h : x.Answers g o) {m : Match} (hm : m ∈ g) (hk : m.key ≠ Field.flowDirection) :
    m.key ∈ x.labels := by
  obtain ⟨-, -, -, -, -, hlabels⟩ := (answers_iff x g o).mp h
  have hd : MetricNeed.directionOf? m = none := by
    cases hd : MetricNeed.directionOf? m with
    | none => rfl
    | some d => exact absurd (key_of_directionOf? hd).1 hk
  apply hlabels
  rw [MetricNeed.labelsOf, List.mem_append, List.mem_map]
  exact .inr ⟨m, List.mem_filter.mpr ⟨hm, by rw [hd]; rfl⟩, rfl⟩

/-! ### Comparisons -/

/-- The comparison of a match without a lower bound is left out or names the field of the match. -/
theorem matcher?_cases {d : Direction} {m : Match} (h : m.atLeast = false) :
    (matcher? d m = .ok none ∧ m.key = Field.flowDirection ∧ d ≠ .any) ∨
      ∃ f, matcher? d m = .ok (some f) ∧ f.key = m.key ∧
        (m.key ≠ Field.flowDirection ∨ d = .any) := by
  rw [matcher?, h, if_neg Bool.false_ne_true]
  split_ifs with hskip hregex
  · exact .inl ⟨rfl, hskip⟩
  · exact .inr ⟨_, rfl, rfl, by tauto⟩
  · exact .inr ⟨_, rfl, LogQL.LabelFilter.key_ofAtoms _ _ _, by tauto⟩

/-- A group without lower bounds has comparisons, each of which names the field of a match that is
not left out. -/
theorem matchers_of_any_atLeast {d : Direction} {g : Group} (h : g.any Match.atLeast = false) :
    ∃ fs, matchers d g = .ok fs ∧
      ∀ f ∈ fs, ∃ m ∈ g, f.key = m.key ∧ (m.key ≠ Field.flowDirection ∨ d = .any) := by
  have hone : ∀ m ∈ g, m.atLeast = false := by
    intro m hm
    exact Bool.eq_false_iff.mpr (List.any_eq_false.mp h m hm)
  have hok : ∀ m ∈ g, ∃ f, matcher? d m = .ok f := by
    intro m hm
    rcases matcher?_cases (d := d) (hone m hm) with ⟨hf, -⟩ | ⟨f, hf, -⟩
    · exact ⟨_, hf⟩
    · exact ⟨_, hf⟩
  obtain ⟨fs, hfs⟩ := Outcome.exists_mapM_of_forall hok
  refine ⟨fs.filterMap id, by rw [matchers, hfs]; rfl, ?_⟩
  intro f hf
  rw [List.mem_filterMap] at hf
  obtain ⟨f', hf', rfl⟩ := hf
  obtain ⟨m, hm, hmf⟩ := Outcome.exists_of_mem_mapM hfs hf'
  refine ⟨m, hm, ?_⟩
  rcases matcher?_cases (d := d) (hone m hm) with ⟨hn, -⟩ | ⟨f', hs, hkey⟩
  · rw [hn] at hmf
    cases hmf
  · rw [hs] at hmf
    cases hmf
    exact hkey

/-- A metric that answers a group has the field of each comparison of its query. -/
theorem MetricInfo.Answers.matchers {x : MetricInfo} {g : Group} {o : Metric.Options}
    (h : x.Answers g o) :
    ∃ fs, matchers x.direction g = .ok fs ∧ ∀ f ∈ fs, f.key ∈ x.labels := by
  obtain ⟨fs, hfs, hkeys⟩ := matchers_of_any_atLeast (d := x.direction) ((answers_iff x g o).mp h).1
  refine ⟨fs, hfs, fun f hf => ?_⟩
  obtain ⟨m, hm, hkey, hne | hany⟩ := hkeys f hf
  · rw [hkey]
    exact h.key_mem_of_ne hm hne
  · rw [hkey]
    exact h.key_mem_of_any hany hm

/-! ### Expressions -/

/-- A metric that supports the function has an expression for it. -/
theorem exists_expression {x : MetricInfo} {o : Metric.Options}
    (h : x.supports o.effectiveFunction o.measure = true) (selector : String) :
    ∃ text, expression x selector o = .ok text := by
  rw [MetricInfo.supports] at h
  rw [expression]
  cases hk : x.kind with
  | counter => exact ⟨_, rfl⟩
  | histogram =>
    rw [hk] at h
    simp only [Bool.or_eq_true, beq_iff_eq] at h
    rcases h with (h | h) | h <;> rw [h] <;> exact ⟨_, rfl⟩

/-! ### Plans -/

/-- A planned metric is one of the inventory that answers the group. -/
theorem answers_of_plan? {i : Inventory} {g : Group} {o : Metric.Options} {x : MetricInfo}
    (h : i.plan? g o = some x) : x ∈ i ∧ x.Answers g o := by
  rw [Inventory.plan?, Option.bind_eq_some_iff] at h
  obtain ⟨need, hneed, hfind⟩ := h
  have hc := List.find?_some hfind
  rw [Inventory.isCandidate, Bool.and_eq_true] at hc
  exact ⟨List.mem_of_find?_eq_some hfind, hc.1, need, hneed, hc.2⟩

/-- A planned metric is an enabled one of the inventory, it measures what is asked for, and it has
the labels of the aggregation. Its query has comparisons, all of them on labels of the metric, and
an expression; so there is an address for every store and every window. -/
theorem plan?_sound {i : Inventory} {g : Group} {o : Metric.Options} {x : MetricInfo}
    (h : i.plan? g o = some x) :
    x ∈ i ∧ x.enabled = true ∧ x.measure = o.measure ∧
      (∀ label ∈ o.aggregate.labels, label ∈ x.labels) ∧
      (∃ fs, matchers x.direction g = .ok fs ∧ ∀ f ∈ fs, f.key ∈ x.labels) ∧
      ∀ base window, ∃ text, url base x g o window = .ok text := by
  obtain ⟨hmem, hx⟩ := answers_of_plan? h
  obtain ⟨-, henabled, hmeasure, hsupports, -, hlabels⟩ := (answers_iff x g o).mp hx
  obtain ⟨fs, hfs, hkeys⟩ := hx.matchers
  refine ⟨hmem, henabled, hmeasure, ?_, ⟨fs, hfs, hkeys⟩, ?_⟩
  · intro label hl
    exact hlabels label (List.mem_append_left _ hl)
  · intro base window
    obtain ⟨inner, hinner⟩ := exists_expression hsupports (selector fs)
    rw [url, hfs]
    change ∃ text, (expression x (selector fs) o >>= _) = _
    rw [hinner]
    exact ⟨_, rfl⟩

/-- A metric of bytes by namespace and direction. -/
def directedBytes : MetricInfo where
  name := "netobserv_namespace_flow_bytes_total"
  kind := .counter
  measure := .bytes
  labels := ["DstK8S_Namespace", "FlowDirection", "SrcK8S_Namespace"]

/-- Several matches on the direction, of which only the first asks for one. -/
def directedGroup : Group :=
  [{ key := "FlowDirection", values := "\"1\"" },
    { key := "FlowDirection", values := "0", negated := true },
    { key := "FlowDirection", values := "1.*", regex := true },
    { key := "SrcK8S_Namespace", values := "a,b" }]

/-- The rate of bytes between namespaces. -/
def namespaceRate : Metric.Options where
  top := 10
  step := "30s"
  rateInterval := "2m"
  measure := .bytes
  function := .rate
  aggregate := ⟨"namespace", Metric.Aggregate.namespaceLabels, false⟩

/-- A group with several matches on the direction is planned for a metric with the direction as a
label, behind a disabled one, and its query compares that label. -/
theorem plan?_sound_directedGroup :
    Inventory.plan? [{ directedBytes with enabled := false }, directedBytes] directedGroup
        namespaceRate = some directedBytes ∧
      (∃ fs, matchers .any directedGroup = .ok fs ∧ ∀ f ∈ fs, f.key ∈ directedBytes.labels) ∧
      ∀ base window, ∃ text,
        url base directedBytes directedGroup namespaceRate window = .ok text := by
  have hplan : Inventory.plan? [{ directedBytes with enabled := false }, directedBytes]
      directedGroup namespaceRate = some directedBytes := by
    decide +kernel
  obtain ⟨-, -, -, -, hmatchers, hurl⟩ := plan?_sound hplan
  exact ⟨hplan, hmatchers, hurl⟩

end FlowConsole.PromQL
