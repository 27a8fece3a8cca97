import FlowConsole.PromQL.Inventory
import FlowConsole.Proofs.Text.Characters
import Mathlib.Data.List.Basic

/-!
# Metrics that would answer if they were enabled

For a need that no metric answers, users are told the short names of disabled metrics that would
answer it. What a user can enable are the configured rows of a short name (`enabling`). The names
come from the inventory, though, which also has the counters of the histograms of name service
latencies: these are enabled with their histograms and have no flag of their own. So the names are
right as long as no counter of a disabled histogram is among the answers, and
`namesCandidates_iff` has the exact condition.
-/

namespace FlowConsole.PromQL

open Inventory (isCandidate ofConfigured)

namespace MetricInfo

/-- The metric with its flag set, if it is the one of the short name. -/
def enabledBy (name : String) (m : MetricInfo) : MetricInfo :=
  if m.shortName = name then { m with enabled := true } else m

/-- The counter that comes with the metric answers the need. -/
def CountServes (m : MetricInfo) (need : MetricNeed) : Prop :=
  ∃ c, m.countRow? = some c ∧ c.satisfies need = true

/-- The metric or the counter that comes with it answers the need. -/
def Serves (m : MetricInfo) (need : MetricNeed) : Prop :=
  m.satisfies need = true ∨ m.CountServes need

/-- A counter is enabled with its histogram. -/
theorem enabled_of_countRow? {m c : MetricInfo} (h : m.countRow? = some c) :
    c.enabled = m.enabled := by
  rw [countRow?] at h
  split at h
  · cases h
    rfl
  · cases h

private theorem isPrefixOf?_append {start cs : List Char} (h : start.length ≤ cs.length)
    (ds : List Char) : start.isPrefixOf? (cs ++ ds) = (start.isPrefixOf? cs).map (· ++ ds) := by
  induction start generalizing cs with
  | nil => rfl
  | cons c start ih =>
    cases cs with
    | nil => exact absurd h (Nat.not_succ_le_zero _)
    | cons d cs =>
      rw [List.cons_append, List.isPrefixOf?, List.isPrefixOf?]
      split
      · exact ih (Nat.le_of_succ_le_succ h)
      · rfl

/-- A counter goes by the short name of its histogram with an ending. -/
theorem shortName_of_countRow? {m c : MetricInfo} (h : m.countRow? = some c) :
    c.shortName = m.shortName ++ "_count" := by
  rw [countRow?] at h
  split at h
  · next hm =>
    cases h
    -- the name is too long for the start of exported names to reach into the ending
    have hlength : exported.toList.length ≤ m.name.toList.length :=
      Nat.le_trans (by decide) (Text.length_le_of_occursIn hm.2)
    simp only [shortName, String.toList_append, isPrefixOf?_append hlength]
    cases exported.toList.isPrefixOf? m.name.toList with
    | none => rfl
    | some rest =>
      rw [Option.map_some, Option.map_some, Option.map_some, Option.getD_some, Option.getD_some,
        String.ofList_append, String.ofList_toList]
  · cases h

/-- What a metric answers, itself or by its counter, does not depend on its flag. -/
theorem serves_enabled {m : MetricInfo} {flag : Bool} {need : MetricNeed} :
    MetricInfo.Serves { m with enabled := flag } need ↔ m.Serves need := by
  refine or_congr Iff.rfl ?_
  rw [CountServes, CountServes, countRow?, countRow?]
  split
  · simp only [Option.some.injEq, exists_eq_left']
    rfl
  · simp only [reduceCtorEq]

end MetricInfo

namespace Inventory

variable {rows : List MetricInfo} {need : MetricNeed} {name : String}

/-- The rows with those of the short name enabled. -/
def enabling (name : String) (rows : List MetricInfo) : List MetricInfo :=
  rows.map (MetricInfo.enabledBy name)

/-- The names are those of disabled rows whose enabling makes the need answered and, of a need that
is not answered yet, all of those. -/
structure NamesCandidates (rows : List MetricInfo) (need : MetricNeed) : Prop where
  disabled : ∀ name ∈ (ofConfigured rows).disabledFor need,
    ∃ m ∈ rows, m.enabled = false ∧ m.shortName = name
  answered : ∀ name ∈ (ofConfigured rows).disabledFor need,
    ((ofConfigured (enabling name rows)).find? need).isSome = true
  complete : (ofConfigured rows).find? need = none → ∀ name,
    ((ofConfigured (enabling name rows)).find? need).isSome = true →
      name ∈ (ofConfigured rows).disabledFor need

/-- The rows of the inventory are the configured ones and their counters. -/
theorem mem_ofConfigured {c : MetricInfo} :
    c ∈ ofConfigured rows ↔ c ∈ rows ∨ ∃ m ∈ rows, m.countRow? = some c := by
  rw [ofConfigured, List.mem_append, List.mem_filterMap]

/-- A need is answered exactly if an enabled row or the counter of one answers it. -/
theorem isSome_find? :
    ((ofConfigured rows).find? need).isSome = true ↔
      ∃ m ∈ rows, m.enabled = true ∧ m.Serves need := by
  rw [find?, List.find?_isSome]
  simp only [isCandidate, Bool.and_eq_true, mem_ofConfigured]
  constructor
  · rintro ⟨c, hc | ⟨m, hm, hc⟩, henabled, hserves⟩
    · exact ⟨c, hc, henabled, .inl hserves⟩
    · exact ⟨m, hm, MetricInfo.enabled_of_countRow? hc ▸ henabled, .inr ⟨c, hc, hserves⟩⟩
  · rintro ⟨m, hm, henabled, hserves | ⟨c, hc, hserves⟩⟩
    · exact ⟨m, .inl hm, henabled, hserves⟩
    · exact ⟨c, .inr ⟨m, hm, hc⟩, (MetricInfo.enabled_of_countRow? hc).trans henabled, hserves⟩

/-- Enabling the rows of a name lets those of them that were disabled answer too. -/
theorem isSome_find?_enabling :
    ((ofConfigured (enabling name rows)).find? need).isSome = true ↔
      ((ofConfigured rows).find? need).isSome = true ∨
        ∃ m ∈ rows, m.enabled = false ∧ m.shortName = name ∧ m.Serves need := by
  rw [isSome_find?, isSome_find?]
  simp only [enabling, List.mem_map, exists_exists_and_eq_and, MetricInfo.enabledBy]
  constructor
  · rintro ⟨m, hm, h⟩
    split at h
    · next hname =>
      have hserves := MetricInfo.serves_enabled.mp h.2
      cases henabled : m.enabled with
      | true => exact .inl ⟨m, hm, henabled, hserves⟩
      | false => exact .inr ⟨m, hm, henabled, hname, hserves⟩
    · exact .inl ⟨m, hm, h⟩
  · rintro (⟨m, hm, henabled, hserves⟩ | ⟨m, hm, -, rfl, hserves⟩)
    · refine ⟨m, hm, ?_⟩
      split
      · exact ⟨rfl, MetricInfo.serves_enabled.mpr hserves⟩
      · exact ⟨henabled, hserves⟩
    · refine ⟨m, hm, ?_⟩
      rw [if_pos rfl]
      exact ⟨rfl, MetricInfo.serves_enabled.mpr hserves⟩

/-- A name is given for a disabled row that answers, and for one whose counter does, with the ending
of counters. -/
theorem mem_disabledFor :
    name ∈ (ofConfigured rows).disabledFor need ↔
      ∃ m ∈ rows, m.enabled = false ∧
        (m.satisfies need = true ∧ m.shortName = name ∨
          m.CountServes need ∧ m.shortName ++ "_count" = name) := by
  simp only [disabledFor, List.mem_map, List.mem_filter, Bool.and_eq_true, Bool.not_eq_true',
    mem_ofConfigured]
  constructor
  · rintro ⟨c, ⟨hc | ⟨m, hm, hc⟩, henabled, hserves⟩, hname⟩
    · exact ⟨c, hc, henabled, .inl ⟨hserves, hname⟩⟩
    · refine ⟨m, hm, MetricInfo.enabled_of_countRow? hc ▸ henabled, .inr ⟨⟨c, hc, hserves⟩, ?_⟩⟩
      rw [← MetricInfo.shortName_of_countRow? hc, hname]
  · rintro ⟨m, hm, henabled, ⟨hserves, hname⟩ | ⟨⟨c, hc, hserves⟩, hname⟩⟩
    · exact ⟨m, ⟨.inl hm, henabled, hserves⟩, hname⟩
    · refine ⟨c, ⟨.inr ⟨m, hm, hc⟩, (MetricInfo.enabled_of_countRow? hc).trans henabled, hserves⟩,
        ?_⟩
      rw [MetricInfo.shortName_of_countRow? hc, hname]

/-- The names that are given are the right ones exactly if each counter of a disabled row that
answers the need goes by the name of some other disabled row, and, unless the need is answered
already, the rows of that name answer it and the name of the row itself is given too. -/
theorem namesCandidates_iff (rows : List MetricInfo) (need : MetricNeed) :
    NamesCandidates rows need ↔
      ∀ m ∈ rows, m.enabled = false → m.CountServes need →
        (∃ r ∈ rows, r.enabled = false ∧ r.shortName = m.shortName ++ "_count") ∧
        (((ofConfigured rows).find? need).isSome = true ∨
          (∃ r ∈ rows, r.enabled = false ∧ r.shortName = m.shortName ++ "_count" ∧
            r.Serves need) ∧
          m.shortName ∈ (ofConfigured rows).disabledFor need) := by
  constructor
  · intro h m hm henabled hserves
    have hgiven : m.shortName ++ "_count" ∈ (ofConfigured rows).disabledFor need :=
      mem_disabledFor.mpr ⟨m, hm, henabled, .inr ⟨hserves, rfl⟩⟩
    refine ⟨h.disabled _ hgiven, ?_⟩
    rcases isSome_find?_enabling.mp (h.answered _ hgiven) with hfound | hothers
    · exact .inl hfound
    · cases hfound : (ofConfigured rows).find? need with
      | some _ => exact .inl rfl
      | none =>
        exact .inr ⟨hothers, h.complete hfound _
          (isSome_find?_enabling.mpr (.inr ⟨m, hm, henabled, rfl, .inr hserves⟩))⟩
  · intro h
    refine ⟨fun name hname => ?_, fun name hname => ?_, fun hnone name hfound => ?_⟩
    · obtain ⟨m, hm, henabled, ⟨-, rfl⟩ | ⟨hserves, rfl⟩⟩ := mem_disabledFor.mp hname
      · exact ⟨m, hm, henabled, rfl⟩
      · exact (h m hm henabled hserves).1
    · rw [isSome_find?_enabling]
      obtain ⟨m, hm, henabled, ⟨hserves, rfl⟩ | ⟨hserves, rfl⟩⟩ := mem_disabledFor.mp hname
      · exact .inr ⟨m, hm, henabled, rfl, .inl hserves⟩
      · exact (h m hm henabled hserves).2.imp_right And.left
    · rw [isSome_find?_enabling, hnone] at hfound
      obtain ⟨m, hm, henabled, rfl, hserves⟩ := hfound.resolve_left Bool.false_ne_true
      rcases hserves with hserves | hserves
      · exact mem_disabledFor.mpr ⟨m, hm, henabled, .inl ⟨hserves, rfl⟩⟩
      · rcases (h m hm henabled hserves).2 with hfound | hlisted
        · rw [hnone] at hfound
          cases hfound
        · exact hlisted.2

/-- A histogram of name service latencies that is not enabled. -/
def latencies : MetricInfo where
  enabled := false
  name := "netobserv_namespace_dns_latency_seconds"
  kind := .histogram
  measure := .dnsLatency
  labels := ["DstK8S_Namespace", "SrcK8S_Namespace"]

/-- How many flows of name service there are from each namespace. -/
def nameServiceFlows : MetricNeed where
  labels := ["SrcK8S_Namespace"]
  measure := .dnsFlows
  direction := .any
  function := .count

/-- The name that is given for a disabled histogram whose counter answers is that of the counter.
No row goes by it, so enabling it makes no difference, but enabling the histogram does. -/
theorem not_namesCandidates_latencies :
    (ofConfigured [latencies]).disabledFor nameServiceFlows =
        ["namespace_dns_latency_seconds_count"] ∧
      enabling "namespace_dns_latency_seconds_count" [latencies] = [latencies] ∧
      (ofConfigured [latencies]).find? nameServiceFlows = none ∧
      ((ofConfigured (enabling "namespace_dns_latency_seconds" [latencies])).find?
        nameServiceFlows).isSome = true ∧
      ¬NamesCandidates [latencies] nameServiceFlows := by
  have hgiven : (ofConfigured [latencies]).disabledFor nameServiceFlows =
      ["namespace_dns_latency_seconds_count"] := by
    decide +kernel
  refine ⟨hgiven, by decide +kernel, by decide +kernel, by decide +kernel, fun h => ?_⟩
  obtain ⟨m, hm, -, hname⟩ := h.disabled _ (hgiven ▸ List.mem_cons_self)
  rw [List.mem_singleton.mp hm] at hname
  exact absurd hname (by decide +kernel)

end Inventory

end FlowConsole.PromQL
