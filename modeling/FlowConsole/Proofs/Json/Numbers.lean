import FlowConsole.Json.Printing
import FlowConsole.Json.Reading
import FlowConsole.Proofs.Text.Digits

/-!
# Numbers in JSON texts

A number reads back as itself if it is read from its text, wherever a value may end
(`Number.ReadsBack`). Natural numbers of 64 bits do (`readsBack_natural`).
-/

namespace FlowConsole.Json

open Utf8 (Bytes)

/-- A value may end before the bytes: there are none, or the first is a comma or closes an array or
an object. -/
def Ends (rest : Bytes) : Prop := ∀ b ∈ rest.head?, b = 0x2C ∨ b = 0x5D ∨ b = 0x7D

/-- The number is read from its text. -/
def Number.ReadsBack (n : Number) : Prop :=
  ∃ m : Numeral, m.value? = some n ∧
    ∀ rest, Ends rest → Tree.scanNumeral (Utf8.encode n.render ++ rest) = some (m, rest)

/-! ### Digits -/

/-- The value of a digit. -/
private def valueOf (c : Char) : Nat := c.toNat - '0'.toNat

private theorem utf8EncodeChar_digit {c : Char} (h : c.isDigit = true) :
    ∃ b, String.utf8EncodeChar c = [b] ∧ Tree.isDigit b = true ∧ Tree.digitValue b = valueOf c := by
  have hall : ∀ n < 58, 48 ≤ n → String.utf8EncodeChar (Char.ofNat n) = [UInt8.ofNat n] ∧
      Tree.isDigit (UInt8.ofNat n) = true ∧
      Tree.digitValue (UInt8.ofNat n) = valueOf (Char.ofNat n) := by
    decide +kernel
  exact Text.digit_cases h fun n hhigh hlow => ⟨_, hall n hhigh hlow⟩

private theorem scanDigits_append {cs : List Char} (hcs : ∀ c ∈ cs, c.isDigit = true) {rest : Bytes}
    (hrest : Ends rest) :
    Tree.scanDigits (cs.flatMap String.utf8EncodeChar ++ rest) = (cs.map valueOf, rest) := by
  induction cs with
  | nil =>
    rw [Tree.scanDigits, List.flatMap_nil, List.nil_append]
    cases rest with
    | nil => rfl
    | cons b rest =>
      have hb : Tree.isDigit b = false := by
        rcases hrest b rfl with rfl | rfl | rfl <;> rfl
      rw [List.takeWhile_cons, List.dropWhile_cons, hb]
      rfl
  | cons c cs ih =>
    obtain ⟨hc, hcs⟩ := List.forall_mem_cons.mp hcs
    obtain ⟨b, hbytes, hdigit, hvalue⟩ := utf8EncodeChar_digit hc
    obtain ⟨hvalues, hafter⟩ := Prod.mk.inj (ih hcs)
    rw [Tree.scanDigits, List.flatMap_cons, hbytes, List.append_assoc, List.singleton_append,
      List.takeWhile_cons_of_pos hdigit, List.dropWhile_cons_of_pos hdigit, List.map_cons, hvalues,
      hafter, hvalue, List.map_cons]

private theorem wholePart_eq {cs : List Char} {n : Nat}
    (h : Nat.ofDigitChars 10 cs n ≤ maxUInt64) :
    wholePart n (cs.map valueOf) = (Nat.ofDigitChars 10 cs n, 0) := by
  induction cs generalizing n with
  | nil => rfl
  | cons c cs ih =>
    have hnext : n * 10 + valueOf c = 10 * n + (c.toNat - '0'.toNat) := by
      rw [Nat.mul_comm]
      rfl
    have hgrows := Text.le_ofDigitChars cs (10 * n + (c.toNat - '0'.toNat))
    rw [Nat.ofDigitChars_cons] at h ⊢
    rw [List.map_cons, wholePart, hnext, if_pos (hgrows.trans h)]
    exact ih h

/-! ### Integers -/

private theorem isDigit_of_mem_toDigits {n : Nat} {c : Char} (hc : c ∈ Nat.toDigits 10 n) :
    c.isDigit = true :=
  Nat.isDigit_of_mem_toDigits (by decide) (by decide) hc

private theorem scanWhole_toDigits (n : Nat) {rest : Bytes} (hrest : Ends rest) :
    Tree.scanWhole ((Nat.toDigits 10 n).flatMap String.utf8EncodeChar ++ rest) =
      some ((Nat.toDigits 10 n).map valueOf, rest) := by
  have hscan := scanDigits_append (fun _ => isDigit_of_mem_toDigits (n := n)) hrest
  rw [Tree.scanWhole, hscan]
  rcases Nat.eq_zero_or_pos n with rfl | hpos
  · rfl
  · -- The first digit is no zero.
    obtain ⟨c, cs, hdigits, hc⟩ := Text.toDigits_eq_cons hpos
    obtain ⟨k, hk⟩ : ∃ k, valueOf c = k + 1 := Nat.exists_eq_add_of_le' hc
    rw [hdigits, List.map_cons, hk]
    rfl

private theorem scan_of_ends {rest : Bytes} (hrest : Ends rest) :
    Tree.scanFraction rest = some (none, rest) ∧ Tree.scanExponent rest = some (none, rest) := by
  cases rest with
  | nil => exact ⟨rfl, rfl⟩
  | cons b rest => rcases hrest b rfl with rfl | rfl | rfl <;> exact ⟨rfl, rfl⟩

private theorem head?_toDigits_ne (n : Nat) (rest : Bytes) :
    ((Nat.toDigits 10 n).flatMap String.utf8EncodeChar ++ rest).head? ≠ some 0x2D := by
  obtain ⟨c, cs, hdigits⟩ :=
    List.exists_cons_of_ne_nil (List.length_pos_iff.mp (Nat.length_toDigits_pos (n := n) (b := 10)))
  have hc : c.isDigit = true := isDigit_of_mem_toDigits (hdigits ▸ List.mem_cons_self)
  obtain ⟨b, hbytes, hdigit, -⟩ := utf8EncodeChar_digit hc
  rw [hdigits, List.flatMap_cons, hbytes]
  rintro ⟨rfl⟩
  cases hdigit

private theorem scanNumeral_toDigits (n : Nat) {rest : Bytes} (hrest : Ends rest) :
    Tree.scanNumeral ((Nat.toDigits 10 n).flatMap String.utf8EncodeChar ++ rest) =
      some (⟨false, (Nat.toDigits 10 n).map valueOf, none, none⟩, rest) := by
  obtain ⟨hfraction, hexponent⟩ := scan_of_ends hrest
  simp only [Tree.scanNumeral, head?_toDigits_ne n rest, decide_false, if_false,
    scanWhole_toDigits n hrest, hfraction, hexponent, Option.bind_eq_bind, Option.bind_some]
  rfl

private theorem value?_toDigits {n : Nat} (h : n ≤ maxUInt64) :
    Numeral.value? ⟨false, (Nat.toDigits 10 n).map valueOf, none, none⟩ = some (.natural n) := by
  have hnumber : Nat.ofDigitChars 10 (Nat.toDigits 10 n) 0 = n := Nat.ofDigitChars_ten_toDigits
  have hwhole : wholePart 0 ((Nat.toDigits 10 n).map valueOf) = _ :=
    wholePart_eq (hnumber.symm ▸ h)
  rw [Numeral.value?, hwhole, hnumber]
  exact if_pos ⟨rfl, rfl, rfl⟩

/-- A natural number of 64 bits reads back. -/
theorem readsBack_natural {n : Nat} (h : n ≤ maxUInt64) : (Number.natural n).ReadsBack := by
  refine ⟨_, value?_toDigits h, fun rest hrest => ?_⟩
  have htext : (toString n).toList = Nat.toDigits 10 n := Nat.toList_repr
  rw [Number.render, Utf8.encode, htext]
  exact scanNumeral_toDigits n hrest

end FlowConsole.Json
