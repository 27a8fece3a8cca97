import FlowConsole.Filter.Reading
import FlowConsole.Proofs.Outcome
import FlowConsole.Proofs.Text.Characters

/-!
# Admitted matches

The matches of an expression that was read are made of admitted characters, whatever text it was
read from (`admitted_of_parse`). The atoms of their values are too.
-/

open FlowConsole.Text (Consists)

namespace FlowConsole.Filter

/-- The key is a key, and the values are made of the characters of values. -/
structure Match.Admitted (m : Match) : Prop where
  key : isKey m.key.toList = true
  values : Consists isValueChar m.values

/-- A match that is let through is admitted, and unchanged. -/
theorem Match.admit_eq_ok {m n : Match} : m.admit = .ok n ↔ m.Admitted ∧ n = m := by
  unfold Match.admit
  split_ifs with hk hv
  · constructor
    · intro h
      cases h
    · rintro ⟨h, -⟩
      rw [h.key] at hk
      cases hk
  · constructor
    · intro h
      cases h
    · rintro ⟨h, -⟩
      rw [List.all_eq_true.mpr h.values] at hv
      cases hv
  · rw [Bool.not_eq_true, Bool.not_eq_false'] at hk hv
    constructor
    · intro h
      cases h
      exact ⟨⟨hk, List.all_eq_true.mp hv⟩, rfl⟩
    · rintro ⟨-, rfl⟩
      rfl

/-- Whatever an expression was read from, its matches are admitted. -/
theorem admitted_of_parse {raw : String} {e : Expression} (h : Expression.parse raw = .ok e)
    {g : Group} (hg : g ∈ e) {m : Match} (hm : m ∈ g) : m.Admitted := by
  rw [Expression.parse] at h
  split at h
  · cases h
  · next text _ =>
    obtain ⟨cs, -, hcs⟩ := Outcome.exists_of_mem_mapM h hg
    obtain ⟨n, -, hn⟩ := Outcome.exists_of_mem_mapM hcs hm
    obtain ⟨ha, rfl⟩ := Match.admit_eq_ok.mp hn
    exact ha

/-- The characters of a key are word characters and dots. -/
theorem Match.Admitted.key_chars {m : Match} (h : m.Admitted) : Consists isKeyRest m.key := by
  have hk := h.key
  intro c hc
  cases hcs : m.key.toList with
  | nil =>
    rw [hcs] at hc
    exact absurd hc List.not_mem_nil
  | cons d ds =>
    rw [hcs, isKey, Bool.and_eq_true] at hk
    rw [hcs] at hc
    rcases List.mem_cons.mp hc with rfl | hc
    · have hw : Text.isAsciiWord c = true := by
        have hs := hk.1
        rw [isKeyStart, Bool.or_eq_true] at hs
        rw [Text.isAsciiWord, Char.isAlphanum, Bool.or_eq_true, Bool.or_eq_true]
        exact hs.imp_left Or.inl
      rw [isKeyRest, Text.isWord_of_isAsciiWord hw, Bool.true_or]
    · exact List.all_eq_true.mp hk.2 c hc

/-- The characters of an atom are characters of values. -/
theorem Match.Admitted.atom_chars {m : Match} (h : m.Admitted) {atom : String}
    (ha : atom ∈ m.atoms) : Consists isValueChar atom :=
  h.values.of_mem_split ha

end FlowConsole.Filter
