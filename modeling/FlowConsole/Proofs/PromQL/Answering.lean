import FlowConsole.PromQL.Inventory

/-!
# Which metrics answer a group

A metric answers the query of a group if it is enabled and has all that the query needs. Main
statement: one more match, which asks for no direction, only adds its field to the labels that the
metric must have (`answers_cons`).
-/

open FlowConsole.Filter (Group Match)

namespace FlowConsole.PromQL

/-- The metric is enabled and answers the query of the group. -/
def MetricInfo.Answers (x : MetricInfo) (g : Group) (o : Metric.Options) : Prop :=
  x.enabled = true ∧ ∃ need, MetricNeed.ofGroup? g o = some need ∧ x.satisfies need = true

/-- A metric has a list of labels, repeated or not, if it has each of them. -/
theorem sortedNames_all_iff (names labels : List String) :
    (sortedNames names).all labels.contains = true ↔ ∀ n ∈ names, n ∈ labels := by
  rw [List.all_eq_true]
  constructor
  · intro h n hn
    exact List.contains_iff_mem.mp (h n (mem_sortedNames.mpr hn))
  · intro h n hn
    exact List.contains_iff_mem.mpr (h n (mem_sortedNames.mp hn))

/-- What a metric must be to answer a group without lower bounds. -/
theorem answers_iff (x : MetricInfo) (g : Group) (o : Metric.Options) :
    x.Answers g o ↔
      g.any Match.atLeast = false ∧ x.enabled = true ∧ x.measure = o.measure ∧
        x.supports o.effectiveFunction o.measure = true ∧
        x.hasDirection (MetricNeed.directionOf g) = true ∧
        ∀ n ∈ o.aggregate.labels ++ MetricNeed.labelsOf g, n ∈ x.labels := by
  rw [MetricInfo.Answers, MetricNeed.ofGroup?]
  cases hg : g.any Match.atLeast with
  | true => simp
  | false =>
    simp only [Bool.false_eq_true, if_false, Option.some.injEq, exists_eq_left', true_and,
      MetricInfo.satisfies, Bool.and_eq_true, beq_iff_eq, sortedNames_all_iff, and_assoc]

/-- One more match that asks for no direction and no lower bound asks for its field. -/
theorem answers_cons (x : MetricInfo) (m : Match) (g : Group) (o : Metric.Options)
    (hd : MetricNeed.directionOf? m = none) (ha : m.atLeast = false) :
    x.Answers (m :: g) o ↔ x.Answers g o ∧ m.key ∈ x.labels := by
  have hdir : MetricNeed.directionOf (m :: g) = MetricNeed.directionOf g := by
    rw [MetricNeed.directionOf, List.filterMap_cons, hd]
    rfl
  have hlab : MetricNeed.labelsOf (m :: g) = m.key :: MetricNeed.labelsOf g := by
    rw [MetricNeed.labelsOf, List.filter_cons, hd]
    rfl
  rw [answers_iff, answers_iff, hdir, hlab, List.any_cons, ha, Bool.false_or]
  simp only [List.mem_append, List.mem_cons]
  constructor
  · rintro ⟨h₁, h₂, h₃, h₄, h₅, h⟩
    refine ⟨⟨h₁, h₂, h₃, h₄, h₅, ?_⟩, h _ (.inr (.inl rfl))⟩
    rintro n (hn | hn)
    · exact h n (.inl hn)
    · exact h n (.inr (.inr hn))
  · rintro ⟨⟨h₁, h₂, h₃, h₄, h₅, h⟩, hm⟩
    refine ⟨h₁, h₂, h₃, h₄, h₅, ?_⟩
    rintro n (hn | rfl | hn)
    · exact h n (.inl hn)
    · exact hm
    · exact h n (.inr hn)

/-- There is a metric for a group if some metric of the inventory answers it. -/
theorem plan?_isSome_iff (i : Inventory) (g : Group) (o : Metric.Options) :
    (i.plan? g o).isSome = true ↔ ∃ x ∈ i, x.Answers g o := by
  rw [Inventory.plan?]
  cases hn : MetricNeed.ofGroup? g o with
  | none => simp [MetricInfo.Answers, hn]
  | some need =>
    simp [MetricInfo.Answers, hn, Inventory.find?, Inventory.isCandidate]

end FlowConsole.PromQL
