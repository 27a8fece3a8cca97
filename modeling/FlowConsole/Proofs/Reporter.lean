import FlowConsole.Proofs.Filter.Satisfaction
import FlowConsole.Proofs.Service.Directions

/-!
# Flows that split groups count

A group that could count a flow twice is split in two: one half accepts what was received, the other
what was sent to where no reports come from. No flow is accepted by both halves, and together they
accept every flow of the group but those that were sent to an end that reports them too, and those
of no known direction (`expand_spec`). What is split is not split again, and the scope of a
namespace comes on top of all this.
-/

open FlowConsole.Filter (Expression Group Match)

namespace FlowConsole.Reporter

variable {engine : Regex.Engine} {flow : Flow} {g : Group}

/-! ### The halves of a group -/

/-- The received half of a group accepts the flows of the group that were received, from outside or
within. -/
theorem accepts_received :
    Group.Accepts engine (received ++ g) flow ↔
      (flow Field.flowDirection = "0" ∨ flow Field.flowDirection = "2") ∧
        g.Accepts engine flow := by
  have hdirection : Match.Accepts engine { key := Field.flowDirection, values := "\"0\",\"2\"" }
      (flow Field.flowDirection) ↔ flow Field.flowDirection ∈ ["0", "2"] :=
    Match.accepts_iff_mem rfl rfl rfl (by decide) (by decide)
  rw [Group.accepts_append, received, Group.accepts_cons, hdirection]
  simp

/-- The sent half of a group accepts the flows of the group that were sent to something without a
type or to a service. -/
theorem accepts_sent :
    Group.Accepts engine (sent ++ g) flow ↔
      (flow Field.flowDirection = "1" ∧
        (flow Field.destinationType = "" ∨ flow Field.destinationType = "Service")) ∧
        g.Accepts engine flow := by
  have hdirection : Match.Accepts engine { key := Field.flowDirection, values := "\"1\"" }
      (flow Field.flowDirection) ↔ flow Field.flowDirection ∈ ["1"] :=
    Match.accepts_iff_mem rfl rfl rfl (by decide) (by decide)
  have htype : Match.Accepts engine { key := Field.destinationType, values := "\"\",\"Service\"" }
      (flow Field.destinationType) ↔ flow Field.destinationType ∈ ["", "Service"] :=
    Match.accepts_iff_mem rfl rfl rfl (by decide) (by decide)
  rw [Group.accepts_append, sent, Group.accepts_cons, Group.accepts_cons, hdirection, htype]
  simp

/-- No flow is accepted by both halves. -/
theorem not_accepts_both :
    ¬(Group.Accepts engine (received ++ g) flow ∧ Group.Accepts engine (sent ++ g) flow) := by
  rw [accepts_received, accepts_sent]
  rintro ⟨⟨hreceived, -⟩, ⟨hsent, -⟩, -⟩
  rw [hsent] at hreceived
  exact absurd hreceived (by decide)

/-- One of the halves accepts the flows of the group that were received, or were sent to something
without a type or to a service. -/
theorem accepts_either_iff :
    Group.Accepts engine (received ++ g) flow ∨ Group.Accepts engine (sent ++ g) flow ↔
      g.Accepts engine flow ∧
        ((flow Field.flowDirection = "0" ∨ flow Field.flowDirection = "2") ∨
          flow Field.flowDirection = "1" ∧
            (flow Field.destinationType = "" ∨ flow Field.destinationType = "Service")) := by
  rw [accepts_received, accepts_sent, ← or_and_right, and_comm]

/-! ### Split expressions -/

/-- What an expression becomes group by group. -/
theorem expand_none (e : Expression) (isHandled : Group → Bool) :
    expand e none isHandled = e.flatMap fun g =>
      if g.hasKey Field.flowDirection || isHandled g then [g] else [received ++ g, sent ++ g] :=
  rfl

/-- A group that asks for a direction, or is handled, stays as it is. -/
theorem expand_of_kept {e : Expression} {isHandled : Group → Bool}
    (h : ∀ g ∈ e, (g.hasKey Field.flowDirection || isHandled g) = true) :
    expand e none isHandled = e := by
  rw [expand_none]
  induction e with
  | nil => rfl
  | cons g e ih =>
    have hrest := ih fun g' hg' => h g' (List.mem_cons_of_mem g hg')
    rw [List.flatMap_cons, if_pos (h g List.mem_cons_self), hrest]
    rfl

/-- All groups of a split expression ask for a direction or are handled. -/
theorem kept_of_mem_expand {e : Expression} {isHandled : Group → Bool}
    (hg : g ∈ expand e none isHandled) :
    (g.hasKey Field.flowDirection || isHandled g) = true := by
  rcases Service.State.mem_splitDirections.mp hg with ⟨-, hkept⟩ | ⟨h, -, -, half, hhalf, rfl⟩
  · exact hkept
  · rw [Service.State.hasKey_half hhalf]
    rfl

/-- Splitting a split expression changes nothing. -/
theorem expand_expand (e : Expression) (isHandled : Group → Bool) :
    expand (expand e none isHandled) none isHandled = expand e none isHandled :=
  expand_of_kept fun _ hg => kept_of_mem_expand hg

/-- With a namespace, each group of the split expression is scoped to the source and then to the
destination, by the name between double quotes. -/
theorem expand_some (e : Expression) (name : String) (isHandled : Group → Bool) :
    expand e (some name) isHandled = (expand e none isHandled).flatMap fun g =>
      [{ key := "SrcK8S_Namespace", values := "\"" ++ name ++ "\"" } :: g,
        { key := "DstK8S_Namespace", values := "\"" ++ name ++ "\"" } :: g] := by
  rfl

/-- In order, the groups of an expression that ask for a direction or are handled stay, and each
other group is replaced by its received and its sent half. No flow is accepted by both halves, and
one of them accepts it if the flow satisfies the group and was received, or was sent to something
without a type or to a service. Splitting twice is splitting once. With a namespace, each group of
the outcome is scoped to the source and then to the destination, by the name between double
quotes. -/
theorem expand_spec (e : Expression) (isHandled : Group → Bool) :
    (expand e none isHandled = e.flatMap fun g =>
        if g.hasKey Field.flowDirection || isHandled g then [g]
        else [received ++ g, sent ++ g]) ∧
      (∀ (engine : Regex.Engine) (g : Group) (flow : Flow),
        ¬(Group.Accepts engine (received ++ g) flow ∧ Group.Accepts engine (sent ++ g) flow) ∧
          (Group.Accepts engine (received ++ g) flow ∨ Group.Accepts engine (sent ++ g) flow ↔
            g.Accepts engine flow ∧
              ((flow Field.flowDirection = "0" ∨ flow Field.flowDirection = "2") ∨
                flow Field.flowDirection = "1" ∧
                  (flow Field.destinationType = "" ∨
                    flow Field.destinationType = "Service")))) ∧
      expand (expand e none isHandled) none isHandled = expand e none isHandled ∧
      ∀ name, expand e (some name) isHandled = (expand e none isHandled).flatMap fun g =>
        [{ key := "SrcK8S_Namespace", values := "\"" ++ name ++ "\"" } :: g,
          { key := "DstK8S_Namespace", values := "\"" ++ name ++ "\"" } :: g] := by
  refine ⟨expand_none e isHandled, fun engine g flow => ⟨not_accepts_both, accepts_either_iff⟩,
    expand_expand e isHandled, fun name => expand_some e name isHandled⟩

end FlowConsole.Reporter
