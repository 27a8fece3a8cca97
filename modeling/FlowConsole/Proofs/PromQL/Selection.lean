import FlowConsole.Proofs.Filter.Satisfaction
import FlowConsole.Proofs.PromQL.Planned

/-!
# What planned metrics select

The query of a planned metric selects the flows of the direction of the metric that satisfy the
comparisons of the query. Those are the flows that satisfy the group, as long as the direction of
the metric is one that every match on the direction accepts (`accepts_iff_of_plan?`). That is not
checked when the metric is looked for: the last match that asks for a direction decides it, and
the others are left out of the query of a metric with a direction whatever they ask for. So a group
that no flow satisfies may have a query that selects flows (`selects_contradictory`).
-/

open FlowConsole.Filter (Group Match)

namespace FlowConsole

/-! ### Directions -/

/-- The direction is that of the flow, if it is one. -/
def Direction.Admits (d : Direction) (flow : Flow) : Prop :=
  ∀ code ∈ d.code?, flow Field.flowDirection = code

/-- All directions admit every flow. -/
@[simp] theorem Direction.any_admits (flow : Flow) : Direction.any.Admits flow := by
  intro code hcode
  cases hcode

/-- A direction that a value names has that value. -/
theorem Direction.code?_of_ofCode? {code : String} {d : Direction} (h : ofCode? code = some d) :
    d.code? = some code := by
  rw [ofCode?] at h
  split_ifs at h with h₀ h₁ h₂
  · cases h
    rw [h₀]
    rfl
  · cases h
    rw [h₁]
    rfl
  · cases h
    rw [h₂]
    rfl

/-- A direction other than that of all flows has a value. -/
theorem Direction.exists_code? {d : Direction} (h : d ≠ .any) : ∃ code, d.code? = some code := by
  cases d with
  | ingress => exact ⟨_, rfl⟩
  | egress => exact ⟨_, rfl⟩
  | inner => exact ⟨_, rfl⟩
  | any => exact absurd rfl h

namespace PromQL

/-- The values of the direction field. -/
def directionCodes : List String := ["0", "1", "2"]

/-- A value that names a direction is one of the values of the field. -/
theorem mem_directionCodes {code : String} {d : Direction} (h : Direction.ofCode? code = some d) :
    code ∈ directionCodes := by
  rw [Direction.ofCode?] at h
  split_ifs at h with h₀ h₁ h₂ <;> simp [directionCodes, *]

variable {engine : Regex.Engine}

/-- An atom without quotes that is a value of the direction field selects that value only, among
the values of the field. -/
theorem selects_code {k : CaseFolding} {code text : String} (hcode : code ∈ directionCodes)
    (htext : text ∈ directionCodes) : LogQL.Atom.SelectsAny k false [code] text ↔ text = code := by
  have hone : ∀ s ∈ directionCodes, ∃ c : Char, s.toList = [c] ∧
      (c.toNat < 128 ∧ c.isAlpha = false) ∧ c ≠ '*' ∧ LogQL.Atom.unquoted? s = none := by
    simp only [directionCodes, List.forall_mem_cons]
    exact ⟨⟨'0', by decide⟩, ⟨'1', by decide⟩, ⟨'2', by decide⟩, List.forall_mem_nil _⟩
  obtain ⟨c, hc, hcaseless, hstar, hbare⟩ := hone code hcode
  obtain ⟨d, hd, -⟩ := hone text htext
  have hselects : LogQL.Atom.Selects k false code text ↔ d = c := by
    rw [LogQL.Atom.Selects, hbare, hc, hd]
    exact LogQL.Atom.fits_within_one hcaseless hstar
  rw [LogQL.Atom.SelectsAny, LogQL.Atom.SelectsAny, or_false, hselects, ← String.toList_inj, hc, hd,
    List.singleton_inj]

/-- A match that asks for a direction accepts that direction only, among the values of the field. -/
theorem accepts_of_directionOf? {m : Match} {d : Direction} (h : MetricNeed.directionOf? m = some d)
    (hatLeast : m.atLeast = false) {text : String} (htext : text ∈ directionCodes) :
    m.Accepts engine text ↔ d.code? = some text := by
  rw [MetricNeed.directionOf?] at h
  split at h
  · next hflags =>
    obtain ⟨-, hnegated, hregex⟩ := hflags
    rw [Bool.not_eq_true'] at hnegated hregex
    split at h
    · next atom hatoms =>
      have hselects : m.Accepts engine text ↔
          LogQL.Atom.SelectsAny engine.folding false [atom] text := by
        rw [m.accepts_of_not_atLeast hatLeast, Match.comparison, hregex, hnegated, hatoms,
          if_neg Bool.false_ne_true,
          LogQL.LabelFilter.selects_ofAtoms_iff (List.cons_ne_nil atom []),
          if_neg Bool.false_ne_true]
      rw [hselects, Direction.code?_of_ofCode? h, Option.some_inj]
      split at h
      · next hexact =>
        rw [if_pos hexact, LogQL.Atom.selectsAny_iff_mem (by simpa using hexact),
          List.map_singleton, List.mem_singleton, eq_comm]
      · next hexact =>
        rw [if_neg hexact, selects_code (mem_directionCodes h) htext, eq_comm]
    · cases h
  · cases h

/-! ### Comparisons -/

/-- The match is left out of the query of a metric of the direction. -/
def isLeftOut (d : Direction) (m : Match) : Bool := m.key == Field.flowDirection && d != .any

/-- The comparisons of the matches that are not left out. -/
def comparisons (d : Direction) (g : Group) : List LogQL.LabelFilter :=
  (g.filter fun m => !isLeftOut d m).map Match.comparison

/-- The comparison of a match is left out with the match. -/
theorem matcher?_eq {d : Direction} {m : Match} (h : m.atLeast = false) :
    matcher? d m = .ok (if isLeftOut d m then none else some m.comparison) := by
  rw [matcher?, h, if_neg Bool.false_ne_true, Match.comparison]
  simp only [isLeftOut, Bool.and_eq_true, beq_iff_eq, bne_iff_ne]
  split_ifs
  · rfl
  · rfl
  · rfl

private theorem filterMap_comparisons (d : Direction) (g : Group) :
    (g.map fun m => if isLeftOut d m then none else some m.comparison).filterMap id =
      comparisons d g := by
  rw [comparisons, List.filterMap_map]
  change (g.filterMap fun m => if isLeftOut d m then none else some m.comparison) = _
  induction g with
  | nil => rfl
  | cons m g ih => cases hm : isLeftOut d m <;> simp [hm, ih]

/-- The comparisons of a group without bounds are those of the matches that are not left out. -/
theorem matchers_eq {d : Direction} {g : Group} (h : g.any Match.atLeast = false) :
    matchers d g = .ok (comparisons d g) := by
  have hall : g.mapM (matcher? d) =
      .ok (g.map fun m => if isLeftOut d m then none else some m.comparison) := by
    rw [Outcome.mapM_eq_ok, List.forall₂_map_right_iff, List.forall₂_same]
    intro m hm
    exact matcher?_eq (Bool.eq_false_iff.mpr (List.any_eq_false.mp h m hm))
  rw [matchers, hall, ← filterMap_comparisons]
  rfl

/-- A flow satisfies a group without bounds if it satisfies the comparisons and the matches that are
left out. -/
theorem accepts_iff_comparisons {d : Direction} {g : Group} (h : g.any Match.atLeast = false)
    {flow : Flow} :
    g.Accepts engine flow ↔ (∀ f ∈ comparisons d g, f.Selects engine (flow f.key)) ∧
      ∀ m ∈ g, isLeftOut d m = true → m.Accepts engine (flow m.key) := by
  have hcomparison : ∀ m ∈ g,
      (m.Accepts engine (flow m.key) ↔ m.comparison.Selects engine (flow m.comparison.key)) := by
    intro m hm
    rw [Match.key_comparison]
    exact m.accepts_of_not_atLeast (Bool.eq_false_iff.mpr (List.any_eq_false.mp h m hm))
  simp only [comparisons, List.forall_mem_map, List.mem_filter, Bool.not_eq_true', and_imp]
  constructor
  · intro hg
    exact ⟨fun m hm _ => (hcomparison m hm).mp (hg m hm), fun m hm _ => hg m hm⟩
  · rintro ⟨hkept, hleft⟩ m hm
    cases hout : isLeftOut d m with
    | true => exact hleft m hm hout
    | false => exact (hcomparison m hm).mpr (hkept m hm hout)

/-! ### Planned metrics -/

/-- Every match of the group on the direction accepts the direction. -/
def DirectionAccepted (engine : Regex.Engine) (d : Direction) (g : Group) : Prop :=
  ∀ code ∈ d.code?, ∀ m ∈ g, m.key = Field.flowDirection → m.Accepts engine code

/-- A direction that a metric answers for was asked for by a match of the group. -/
theorem MetricInfo.Answers.exists_directionOf? {x : MetricInfo} {g : Group} {o : Metric.Options}
    (h : x.Answers g o) (hx : x.direction ≠ .any) :
    ∃ m ∈ g, MetricNeed.directionOf? m = some x.direction := by
  obtain ⟨-, -, -, -, hdir, -⟩ := (answers_iff x g o).mp h
  have hsame : MetricNeed.directionOf g = x.direction := by
    rw [MetricInfo.hasDirection, beq_eq_false_iff_ne.mpr hx, Bool.false_and, Bool.false_and,
      Bool.or_false, beq_iff_eq] at hdir
    exact hdir.symm
  rw [MetricNeed.directionOf] at hsame
  cases hlast : (g.filterMap MetricNeed.directionOf?).getLast? with
  | none =>
    rw [hlast] at hsame
    exact absurd hsame.symm hx
  | some d =>
    rw [hlast, Option.getD_some] at hsame
    rw [← hsame]
    exact List.mem_filterMap.mp (List.mem_of_getLast? hlast)

/-- Where a metric answers, a flow satisfies the matches that are left out if it has the direction
of the metric and the matches on the direction accept that. -/
theorem MetricInfo.Answers.forall_leftOut_iff {x : MetricInfo} {g : Group} {o : Metric.Options}
    (h : x.Answers g o) {flow : Flow} (hflow : flow Field.flowDirection ∈ directionCodes) :
    (∀ m ∈ g, isLeftOut x.direction m = true → m.Accepts engine (flow m.key)) ↔
      x.direction.Admits flow ∧ DirectionAccepted engine x.direction g := by
  by_cases hany : x.direction = .any
  · -- nothing is left out, and no direction is asked for
    have hkept (m : Match) : isLeftOut x.direction m = false := by
      rw [isLeftOut, hany, bne_self_eq_false, Bool.and_false]
    have haccepted : DirectionAccepted engine x.direction g := by
      rw [hany]
      rintro code ⟨⟩
    constructor
    · intro _
      exact ⟨hany ▸ Direction.any_admits flow, haccepted⟩
    · intro _ m _ hout
      rw [hkept] at hout
      cases hout
  · have hout (m : Match) : isLeftOut x.direction m = true ↔ m.key = Field.flowDirection := by
      rw [isLeftOut, Bool.and_eq_true, beq_iff_eq, bne_iff_ne]
      exact and_iff_left hany
    simp only [hout]
    constructor
    · intro hleft
      -- the match that asks for the direction accepts no other
      obtain ⟨asking, hasking, hd⟩ := h.exists_directionOf? hany
      have hkey : asking.key = Field.flowDirection := (key_of_directionOf? hd).1
      have hatLeast : asking.atLeast = false :=
        Bool.eq_false_iff.mpr (List.any_eq_false.mp ((answers_iff x g o).mp h).1 _ hasking)
      have hdir : x.direction.code? = some (flow Field.flowDirection) := by
        have haccepts := hleft asking hasking hkey
        rw [hkey] at haccepts
        exact (accepts_of_directionOf? hd hatLeast hflow).mp haccepts
      constructor
      · intro code hmem
        rw [hdir] at hmem
        exact Option.some_inj.mp hmem
      · intro code hmem m hm hkm
        rw [hdir] at hmem
        rw [← Option.some_inj.mp hmem, ← hkm]
        exact hleft m hm hkm
    · rintro ⟨hadmits, haccepted⟩ m hm hkm
      obtain ⟨code, hdir⟩ := Direction.exists_code? hany
      rw [hkm, hadmits code hdir]
      exact haccepted code hdir m hm hkm

/-- The query of a planned metric has the comparisons of the matches that are not left out. A flow
satisfies the group exactly if it has the direction of the metric and satisfies the comparisons, and
the matches on the direction accept that direction. -/
theorem accepts_iff_of_plan? {i : Inventory} {g : Group} {o : Metric.Options} {x : MetricInfo}
    (h : i.plan? g o = some x) :
    matchers x.direction g = .ok (comparisons x.direction g) ∧
      ∀ (engine : Regex.Engine) (flow : Flow), flow Field.flowDirection ∈ directionCodes →
        (g.Accepts engine flow ↔
          (x.direction.Admits flow ∧
            ∀ f ∈ comparisons x.direction g, f.Selects engine (flow f.key)) ∧
          DirectionAccepted engine x.direction g) := by
  have hx : x.Answers g o := (answers_of_plan? h).2
  have hbounds : g.any Match.atLeast = false := ((answers_iff x g o).mp hx).1
  refine ⟨matchers_eq hbounds, fun engine flow hflow => ?_⟩
  rw [accepts_iff_comparisons hbounds, hx.forall_leftOut_iff hflow, ← and_assoc,
    and_comm (b := x.direction.Admits flow)]

/-- A metric of the bytes that were sent, by namespaces. -/
def sentBytes : MetricInfo where
  name := "netobserv_namespace_egress_bytes_total"
  kind := .counter
  measure := .bytes
  direction := .egress
  labels := ["DstK8S_Namespace", "SrcK8S_Namespace"]

/-- What was sent from a namespace. -/
def sentGroup : Group :=
  [{ key := "FlowDirection", values := "1" }, { key := "SrcK8S_Namespace", values := "\"a\"" }]

/-- A flow that was sent and has the same text in all other fields. -/
def sentFlow (text : String) : Flow := fun key => if key = Field.flowDirection then "1" else text

/-- A group that asks for one direction is planned for a metric of that direction, and a flow
satisfies the group exactly if it satisfies what the query of the metric asks for. -/
theorem accepts_iff_sentGroup :
    Inventory.plan? [directedBytes, sentBytes] sentGroup namespaceRate = some directedBytes ∧
      Inventory.plan? [sentBytes] sentGroup namespaceRate = some sentBytes ∧
      sentFlow "a" Field.flowDirection ∈ directionCodes ∧
      (Group.Accepts .ascii sentGroup (sentFlow "a") ↔
        (sentBytes.direction.Admits (sentFlow "a") ∧
          ∀ f ∈ comparisons sentBytes.direction sentGroup,
            f.Selects .ascii (sentFlow "a" f.key)) ∧
        DirectionAccepted .ascii sentBytes.direction sentGroup) := by
  have hfirst : Inventory.plan? [directedBytes, sentBytes] sentGroup namespaceRate =
      some directedBytes := by
    decide +kernel
  have hplan : Inventory.plan? [sentBytes] sentGroup namespaceRate = some sentBytes := by
    decide +kernel
  have hflow : sentFlow "a" Field.flowDirection ∈ directionCodes := by decide
  exact ⟨hfirst, hplan, hflow, (accepts_iff_of_plan? hplan).2 .ascii (sentFlow "a") hflow⟩

/-- A group that asks for two directions. -/
def contradictoryGroup : Group :=
  [{ key := "FlowDirection", values := "\"0\"" }, { key := "FlowDirection", values := "\"1\"" }]

/-- No flow has both of two directions, but the query that is planned for them selects every flow of
the second one. -/
theorem selects_contradictory :
    Inventory.plan? [sentBytes] contradictoryGroup namespaceRate = some sentBytes ∧
      matchers sentBytes.direction contradictoryGroup = .ok [] ∧
      (∀ text, sentBytes.direction.Admits (sentFlow text)) ∧
      ∀ engine flow, ¬contradictoryGroup.Accepts engine flow := by
  refine ⟨by decide +kernel, by decide +kernel, fun text => ?_, fun engine flow hflow => ?_⟩
  · rintro code ⟨⟩
    rfl
  · have hzero : flow Field.flowDirection ∈ ["0"] :=
      (Match.accepts_iff_mem rfl rfl rfl (by decide) (by decide)).mp
        (hflow { key := "FlowDirection", values := "\"0\"" } (by decide))
    have hone : flow Field.flowDirection ∈ ["1"] :=
      (Match.accepts_iff_mem rfl rfl rfl (by decide) (by decide)).mp
        (hflow { key := "FlowDirection", values := "\"1\"" } (by decide))
    rw [List.mem_singleton.mp hzero] at hone
    exact absurd hone (by decide)

end PromQL

end FlowConsole
