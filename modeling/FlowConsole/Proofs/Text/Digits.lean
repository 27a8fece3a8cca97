import FlowConsole.Text.Integer
import Mathlib.Tactic.Ring

/-!
# Decimal digits

The number that digits stand for, first digit first (`Nat.ofDigitChars`), against the digits that a
number is written with (`Nat.toDigits`): a number is smaller than any with more digits, and its
first digit is a zero only if it is zero. Reading digits with a limit checks every step, which comes
to checking the number (`readDigits_eq_ok`).
-/

namespace FlowConsole.Text

/-- What holds of the ten digits holds of every digit. -/
@[elab_as_elim]
theorem digit_cases {motive : Char → Prop} {c : Char} (hc : c.isDigit = true)
    (h : ∀ n < 58, 48 ≤ n → motive (Char.ofNat n)) : motive c := by
  obtain ⟨hlow, hhigh⟩ := Char.isDigit_iff_toNat.mp hc
  have hdigit := h c.toNat (Nat.lt_succ_of_le hhigh) hlow
  rwa [Char.ofNat_toNat] at hdigit

/-- A digit is worth nine at most. -/
theorem digit_le_nine {c : Char} (h : c.isDigit = true) : c.toNat - '0'.toNat ≤ 9 := by
  have hc : c.toNat ≤ '9'.toNat := (Char.isDigit_iff_toNat.mp h).2
  have h9 : '9'.toNat = 57 := rfl
  have h0 : '0'.toNat = 48 := rfl
  omega

/-- Digits that are worth the same are the same. -/
theorem digit_inj {c d : Char} (hc : c.isDigit = true) (hd : d.isDigit = true)
    (h : c.toNat - '0'.toNat = d.toNat - '0'.toNat) : c = d := by
  have hc := (Char.isDigit_iff_toNat.mp hc).1
  have hd := (Char.isDigit_iff_toNat.mp hd).1
  exact Char.toNat_inj.mp (by omega)

/-- A digit in front is multiplied by ten once for every digit after it. -/
theorem ofDigitChars_cons_zero (c : Char) (cs : List Char) :
    Nat.ofDigitChars 10 (c :: cs) 0 =
      10 ^ cs.length * (c.toNat - '0'.toNat) + Nat.ofDigitChars 10 cs 0 := by
  rw [Nat.ofDigitChars_cons, Nat.ofDigitChars_eq_ofDigitChars_zero, Nat.mul_zero, Nat.zero_add]

/-- Digits before others are multiplied by ten once for every one of the others. -/
theorem ofDigitChars_append_zero (cs ds : List Char) :
    Nat.ofDigitChars 10 (cs ++ ds) 0 =
      10 ^ ds.length * Nat.ofDigitChars 10 cs 0 + Nat.ofDigitChars 10 ds 0 := by
  rw [Nat.ofDigitChars_append, Nat.ofDigitChars_eq_ofDigitChars_zero]

/-- A number is smaller than those with more digits. -/
theorem ofDigitChars_lt_pow {cs : List Char} (h : ∀ c ∈ cs, c.isDigit = true) :
    Nat.ofDigitChars 10 cs 0 < 10 ^ cs.length := by
  induction cs with
  | nil => exact Nat.one_pos
  | cons c cs ih =>
    have hrest := ih fun d hd => h d (List.mem_cons_of_mem _ hd)
    have hfirst : 10 ^ cs.length * (c.toNat - '0'.toNat) ≤ 10 ^ cs.length * 9 :=
      Nat.mul_le_mul_left _ (digit_le_nine (h c List.mem_cons_self))
    rw [ofDigitChars_cons_zero, List.length_cons, pow_succ]
    omega

/-- A number whose first digit is no zero is not smaller than those with fewer digits. -/
theorem pow_le_ofDigitChars {c : Char} {cs : List Char} (h : 1 ≤ c.toNat - '0'.toNat) :
    10 ^ cs.length ≤ Nat.ofDigitChars 10 (c :: cs) 0 := by
  have hfirst : 10 ^ cs.length * 1 ≤ 10 ^ cs.length * (c.toNat - '0'.toNat) :=
    Nat.mul_le_mul_left _ h
  rw [ofDigitChars_cons_zero]
  omega

/-- Zeros in front do not count. -/
theorem ofDigitChars_dropWhile_zero (cs : List Char) :
    Nat.ofDigitChars 10 (cs.dropWhile (· == '0')) 0 = Nat.ofDigitChars 10 cs 0 := by
  induction cs with
  | nil => rfl
  | cons c cs ih =>
    rw [List.dropWhile_cons]
    split
    · next hc =>
      rw [ih, ofDigitChars_cons_zero, beq_iff_eq.mp hc, Nat.sub_self, Nat.mul_zero, Nat.zero_add]
    · rfl

/-- A positive number is written with a positive digit first. -/
theorem toDigits_eq_cons {m : Nat} (h : 0 < m) :
    ∃ c cs, Nat.toDigits 10 m = c :: cs ∧ 1 ≤ c.toNat - '0'.toNat := by
  induction m using Nat.strongRecOn with
  | ind m ih =>
    rw [Nat.toDigits_eq_if (by decide)]
    split
    · next hm =>
      refine ⟨m.digitChar, [], rfl, ?_⟩
      rw [Nat.toNat_digitChar_of_lt_ten hm]
      exact Nat.le_sub_of_add_le (Nat.add_comm 1 48 ▸ Nat.add_le_add_left h 48)
    · next hm =>
      obtain ⟨c, cs, hdigits, hc⟩ := ih (m / 10) (by omega) (by omega)
      exact ⟨c, cs ++ [(m % 10).digitChar], by rw [hdigits]; rfl, hc⟩

/-- Digits are a numeral of their number. -/
theorem numeral?_of_isDigit {cs : List Char} (h : ∀ c ∈ cs, c.isDigit = true) :
    numeral? 10 cs = some (Nat.ofDigitChars 10 cs 0) := by
  have hfold : ∀ n, cs.foldlM (fun n c => (digitValue? c).bind fun d =>
      if d < 10 then some (n * 10 + d) else none) n = some (Nat.ofDigitChars 10 cs n) := by
    induction cs with
    | nil => exact fun n => rfl
    | cons c cs ih =>
      intro n
      have hc : c.isDigit = true := h c List.mem_cons_self
      have hlt : c.toNat - '0'.toNat < 10 := Nat.lt_succ_of_le (digit_le_nine hc)
      rw [List.foldlM_cons, digitValue?, if_pos hc, Option.bind_some, if_pos hlt,
        Nat.ofDigitChars_cons, Nat.mul_comm n 10]
      exact ih (fun d hd => h d (List.mem_cons_of_mem _ hd)) _
  exact hfold 0

/-- Digits added to a number make it no smaller. -/
theorem le_ofDigitChars (cs : List Char) (n : Nat) : n ≤ Nat.ofDigitChars 10 cs n := by
  induction cs generalizing n with
  | nil => exact Nat.le_refl n
  | cons c cs ih =>
    rw [Nat.ofDigitChars_cons]
    exact Nat.le_trans (by omega) (ih _)

/-- Digits are read within a limit exactly if the number that they stand for is within it. -/
theorem readDigits_eq_ok {limit value n : Nat} {overflow : Integer.Error} {cs : List Char}
    (hv : value ≤ limit) :
    Integer.readDigits limit overflow value cs = .ok n ↔
      (∀ c ∈ cs, c.isDigit = true) ∧ Nat.ofDigitChars 10 cs value = n ∧ n ≤ limit := by
  induction cs generalizing value with
  | nil =>
    rw [Integer.readDigits, Except.ok.injEq]
    exact ⟨fun h => ⟨fun c hc => absurd hc List.not_mem_nil, h, h ▸ hv⟩, fun h => h.2.1⟩
  | cons c cs ih =>
    have hnext : value * 10 + Integer.digitValue c = 10 * value + (c.toNat - '0'.toNat) := by
      rw [Nat.mul_comm]
      rfl
    rw [Integer.readDigits, List.forall_mem_cons, Nat.ofDigitChars_cons, hnext]
    split
    · next hc =>
      split
      · next hle => rw [ih hle, and_iff_right hc]
      · next hlt =>
        -- The digits after this one only make the number larger.
        have hgrows := le_ofDigitChars cs (10 * value + (c.toNat - '0'.toNat))
        refine iff_of_false (fun h => by cases h) ?_
        rintro ⟨-, rfl, hle⟩
        exact hlt (hgrows.trans hle)
    · next hc => exact iff_of_false (fun h => by cases h) fun h => hc h.1.1

/-- The digits of a number are a numeral of it. -/
theorem numeral?_toDigits (m : Nat) : numeral? 10 (Nat.toDigits 10 m) = some m := by
  have hdigits : ∀ c ∈ Nat.toDigits 10 m, c.isDigit = true := fun _ hc =>
    Nat.isDigit_of_mem_toDigits (by decide) (by decide) hc
  rw [numeral?_of_isDigit hdigits, Nat.ofDigitChars_ten_toDigits]

end FlowConsole.Text
