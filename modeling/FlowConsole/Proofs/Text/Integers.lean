import FlowConsole.Proofs.Outcome
import FlowConsole.Proofs.Text.Digits

/-!
# Integers and their texts

The integer that a text spells, digits after an optional sign (`Integer.Spells`), whatever its size.
A text is read as the integer that it spells, exactly if that fits in 64 bits (`parse_eq_ok`), so
every integer that fits is read back from its own text (`parse_toString`).
-/

namespace FlowConsole.Integer

/-- Digits, of which there is one at least. -/
structure IsDigits (ds : List Char) : Prop where
  ne_nil : ds ≠ []
  isDigit : ∀ c ∈ ds, c.isDigit = true

/-- The text is the integer in digits, with any zeros in front, after an optional sign. -/
inductive Spells : List Char → Int → Prop
  | unsigned {ds : List Char} (h : IsDigits ds) : Spells ds (Nat.ofDigitChars 10 ds 0 : Nat)
  | plus {ds : List Char} (h : IsDigits ds) : Spells ('+' :: ds) (Nat.ofDigitChars 10 ds 0 : Nat)
  | minus {ds : List Char} (h : IsDigits ds) :
    Spells ('-' :: ds) (-(Nat.ofDigitChars 10 ds 0 : Nat))

/-- The digits of a number are digits. -/
theorem isDigits_toDigits (m : Nat) : IsDigits (Nat.toDigits 10 m) :=
  ⟨List.length_pos_iff.mp Nat.length_toDigits_pos,
    fun _ hc => Nat.isDigit_of_mem_toDigits (by decide) (by decide) hc⟩

/-- An integer is spelled by the text that it is written with. -/
theorem spells_toString (n : Int) : Spells (toString n).toList n := by
  have hdigits : ∀ m : Nat, Nat.ofDigitChars 10 (Nat.toDigits 10 m) 0 = m :=
    fun _ => Nat.ofDigitChars_ten_toDigits
  cases n with
  | ofNat m =>
    have htext : (toString (Int.ofNat m)).toList = Nat.toDigits 10 m := Nat.toList_repr
    have hspells := Spells.unsigned (isDigits_toDigits m)
    rw [hdigits] at hspells
    rw [htext]
    exact hspells
  | negSucc m =>
    have htext : (toString (Int.negSucc m)).toList = '-' :: Nat.toDigits 10 (m + 1) := by
      change ("-" ++ Nat.repr (m + 1)).toList = _
      rw [String.toList_append, Nat.toList_repr]
      rfl
    have hspells := Spells.minus (isDigits_toDigits (m + 1))
    rw [hdigits] at hspells
    rw [htext]
    exact hspells

section

variable {cs : List Char} {n : Int}

/-- A text that spells an integer holds digits and signs only. -/
theorem Spells.digit_or_sign (h : Spells cs n) {c : Char} (hc : c ∈ cs) :
    c.isDigit = true ∨ c = '+' ∨ c = '-' := by
  cases h with
  | unsigned h => exact .inl (h.isDigit c hc)
  | plus h =>
    rcases List.mem_cons.mp hc with rfl | hc
    · exact .inr (.inl rfl)
    · exact .inl (h.isDigit c hc)
  | minus h =>
    rcases List.mem_cons.mp hc with rfl | hc
    · exact .inr (.inr rfl)
    · exact .inl (h.isDigit c hc)

private theorem magnitude_eq_ok {limit : Nat} {overflow : Error} {f : Int → Int} (hne : cs ≠ []) :
    (do let m ← readDigits limit overflow 0 cs; return (m : Int)).map f = .ok n ↔
      IsDigits cs ∧ f (Nat.ofDigitChars 10 cs 0 : Nat) = n ∧
        Nat.ofDigitChars 10 cs 0 ≤ limit := by
  rw [Outcome.map_eq_ok]
  constructor
  · rintro ⟨i, hi, rfl⟩
    obtain ⟨m, hm, hi⟩ := Outcome.bind_eq_ok.mp hi
    cases hi
    obtain ⟨hdigits, rfl, hle⟩ := (Text.readDigits_eq_ok (Nat.zero_le _)).mp hm
    exact ⟨⟨hne, hdigits⟩, rfl, hle⟩
  · rintro ⟨hdigits, rfl, hle⟩
    have hread : readDigits limit overflow 0 cs = .ok (Nat.ofDigitChars 10 cs 0) :=
      (Text.readDigits_eq_ok (Nat.zero_le _)).mpr ⟨hdigits.isDigit, rfl, hle⟩
    exact ⟨_, Outcome.bind_eq_ok.mpr ⟨_, hread, rfl⟩, rfl⟩

private theorem fitsInt64_natCast {m : Nat} : FitsInt64 m ↔ m ≤ maxInt64 := by
  rw [FitsInt64]
  omega

private theorem fitsInt64_neg_natCast {m : Nat} :
    FitsInt64 (-(m : Int)) ↔ m ≤ minInt64Magnitude := by
  rw [FitsInt64]
  omega

/-- An integer fits in 64 bits if its magnitude is no larger than the largest one. -/
theorem fitsInt64_of_natAbs_le (h : n.natAbs ≤ maxInt64) : FitsInt64 n := by
  rw [maxInt64] at h
  rw [FitsInt64, minInt64Magnitude, maxInt64]
  omega

/-- A text is read as an integer exactly if it spells it and it fits in 64 bits. -/
theorem read_eq_ok : read cs = .ok n ↔ Spells cs n ∧ FitsInt64 n := by
  constructor
  · intro h
    rw [read.eq_def] at h
    split at h
    · cases h
    · cases h
    · cases h
    · next ds hplus =>
      obtain ⟨hdigits, rfl, hle⟩ := (magnitude_eq_ok hplus).mp h
      exact ⟨.plus hdigits, fitsInt64_natCast.mpr hle⟩
    · next ds hminus =>
      obtain ⟨hdigits, rfl, hle⟩ := (magnitude_eq_ok hminus).mp h
      exact ⟨.minus hdigits, fitsInt64_neg_natCast.mpr hle⟩
    · next hne _ _ _ _ =>
      obtain ⟨hdigits, rfl, hle⟩ := (magnitude_eq_ok hne).mp h
      exact ⟨.unsigned hdigits, fitsInt64_natCast.mpr hle⟩
  · rintro ⟨hspells, hfits⟩
    cases hspells with
    | unsigned h =>
      -- A sign is no digit, so none of the cases of a sign applies.
      have hsign (c : Char) (hc : c.isDigit = false) (ds : List Char) : cs ≠ c :: ds := by
        rintro rfl
        rw [h.isDigit c List.mem_cons_self] at hc
        cases hc
      rw [read.eq_6 cs h.ne_nil (hsign '+' rfl _) (hsign '-' rfl _) (hsign '+' rfl)
        (hsign '-' rfl)]
      exact (magnitude_eq_ok h.ne_nil).mpr ⟨h, rfl, fitsInt64_natCast.mp hfits⟩
    | plus h =>
      rw [read.eq_4 _ h.ne_nil]
      exact (magnitude_eq_ok h.ne_nil).mpr ⟨h, rfl, fitsInt64_natCast.mp hfits⟩
    | minus h =>
      rw [read.eq_5 _ h.ne_nil]
      exact (magnitude_eq_ok h.ne_nil).mpr ⟨h, rfl, fitsInt64_neg_natCast.mp hfits⟩

end

/-- A string is read as an integer exactly if it spells it and it fits in 64 bits. -/
theorem parse_eq_ok {s : String} {n : Int} : parse s = .ok n ↔ Spells s.toList n ∧ FitsInt64 n :=
  read_eq_ok

/-- An integer that fits in 64 bits is read back from its text. -/
theorem parse_toString {n : Int} (h : FitsInt64 n) : parse (toString n) = .ok n :=
  parse_eq_ok.mpr ⟨spells_toString n, h⟩

/-- Integers that fit in 64 bits are told apart by their texts. -/
theorem toString_inj {n m : Int} (hn : FitsInt64 n) (hm : FitsInt64 m) :
    toString n = toString m ↔ n = m := by
  constructor
  · intro h
    have hread := parse_toString hn
    rw [h, parse_toString hm] at hread
    exact (Except.ok.inj hread).symm
  · exact congrArg toString

/-- A string that is no integer is one that spells none that fits in 64 bits. -/
theorem exists_parse_eq_error {s : String} :
    (∃ e, parse s = .error e) ↔ ¬∃ n, Spells s.toList n ∧ FitsInt64 n := by
  simp only [← parse_eq_ok]
  cases parse s <;> simp

/-- A number is checked to be itself where it fits in 64 bits. -/
theorem checked_eq_some {n m : Int} : checked n = some m ↔ FitsInt64 n ∧ m = n := by
  rw [checked, Option.ite_none_right_eq_some, Option.some.injEq, eq_comm]

example : parse "-9223372036854775808" = .ok (-9223372036854775808) := by decide +kernel

end FlowConsole.Integer
