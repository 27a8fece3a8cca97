import FlowConsole.Json.Printing
import FlowConsole.Json.Reading
import FlowConsole.Proofs.Text.Utf8
import Mathlib.Tactic.SplitIfs

/-!
# Strings in JSON texts

Each character of a string is written so that a reader of the text passes over it and takes it for
itself, whatever comes after it (`readsAs_written`). So a string between quotes ends where it is
closed (`scanString_raw`), and reads back as itself (`textOf?_raw`).
-/

open FlowConsole.Json.Tree (scanString isHexDigit isShortEscape)

namespace FlowConsole.Json

open Utf8 (Bytes)

/-- The bytes of a string between its quotes. -/
def raw (s : String) : Bytes := (s.toList.flatMap escapeChar).flatMap String.utf8EncodeChar

/-- The bytes of a string stand between two quotes. -/
theorem encode_quote (s : String) : Utf8.encode (quote s) = 0x22 :: (raw s ++ [0x22]) := by
  have hquote : String.utf8EncodeChar '"' = [0x22] := by decide
  rw [Utf8.encode, quote, String.toList_ofList, List.cons_append, List.flatMap_cons,
    List.flatMap_append, List.flatMap_singleton, hquote]
  rfl

/-- The bytes are passed over as a part of a string, and taken for the character, whatever comes
after them. -/
structure ReadsAs (bs : Bytes) (c : Char) : Prop where
  scan : ∀ rest, scanString (bs ++ rest) = (scanString rest).map fun p => (bs ++ p.1, p.2)
  unescape : ∀ rest, unescape (bs ++ rest) = (unescape rest).map (String.utf8EncodeChar c ++ ·)

/-! ### Characters -/

/-- A byte that is no part of an escape and does not close a string. -/
def IsPlain (b : UInt8) : Prop := b ≠ 0x22 ∧ b ≠ 0x5C ∧ ¬b < 0x20

private theorem scanString_plain {bs : Bytes} (h : ∀ b ∈ bs, IsPlain b) (rest : Bytes) :
    scanString (bs ++ rest) = (scanString rest).map fun p => (bs ++ p.1, p.2) := by
  induction bs with
  | nil => exact Option.map_id'.symm
  | cons b bs ih =>
    obtain ⟨⟨hquote, hescape, hcontrol⟩, hbs⟩ := List.forall_mem_cons.mp h
    rw [List.cons_append, Tree.scanString.eq_6 b _ hquote (fun _ _ _ _ _ he _ => hescape he)
      (fun _ _ he _ => hescape he) (fun he _ => hescape he), if_neg hcontrol, ih hbs,
      Option.map_map]
    rfl

private theorem unescape_plain {bs : Bytes} (h : ∀ b ∈ bs, IsPlain b) (rest : Bytes) :
    unescape (bs ++ rest) = (unescape rest).map (bs ++ ·) := by
  induction bs with
  | nil => exact Option.map_id'.symm
  | cons b bs ih =>
    obtain ⟨⟨-, hescape, -⟩, hbs⟩ := List.forall_mem_cons.mp h
    rw [List.cons_append, unescape.eq_5 b _ (fun _ _ _ _ _ he _ => hescape he)
      (fun _ _ he _ => hescape he), ih hbs, Option.map_map]
    rfl

private theorem readsAs_plain {c : Char} (hquote : c ≠ '"') (hescape : c ≠ '\\')
    (hcontrol : ¬c.toNat < 0x20) : ReadsAs (String.utf8EncodeChar c) c := by
  have hplain : ∀ b ∈ String.utf8EncodeChar c, IsPlain b := by
    intro b hb
    have hcode : b.toNat < 128 → b.toNat = c.toNat := Utf8.toNat_of_mem_utf8EncodeChar hb
    refine ⟨?_, ?_, ?_⟩
    · rintro rfl
      exact hquote (Char.toNat_inj.mp (hcode (by decide)).symm)
    · rintro rfl
      exact hescape (Char.toNat_inj.mp (hcode (by decide)).symm)
    · intro hlt
      have hlow : b.toNat < 32 := UInt8.lt_iff_toNat_lt.mp hlt
      omega
  exact ⟨scanString_plain hplain, unescape_plain hplain⟩

-- An escape of one letter or sign is read as the character that it stands for.
private theorem readsAs_short {e : UInt8} {c : Char} (he : isShortEscape e = true)
    (hu : e ≠ 0x75) (hc : String.utf8EncodeChar c = [shortEscape e]) : ReadsAs [0x5C, e] c where
  scan rest := by
    change scanString (0x5C :: e :: rest) = _
    rw [Tree.scanString.eq_4 e rest fun _ _ _ _ _ he _ => hu he, if_pos he]
    rfl
  unescape rest := by
    change unescape (0x5C :: e :: rest) = _
    rw [unescape.eq_4 e rest fun _ _ _ _ _ he _ => hu he, hc]
    rfl

-- An escape of four digits is read as the character of their number.
private theorem readsAs_unit {a b c d : UInt8} {ch : Char}
    (hdigits : (isHexDigit a && isHexDigit b && isHexDigit c && isHexDigit d) = true)
    (hcode : hexOfFour a b c d = ch.toNat) : ReadsAs [0x5C, 0x75, a, b, c, d] ch where
  scan rest := by
    change scanString (0x5C :: 0x75 :: a :: b :: c :: d :: rest) = _
    rw [Tree.scanString.eq_3, if_pos hdigits]
    rfl
  unescape rest := by
    -- The code of a character is no surrogate.
    have hscalar : ch.toNat < 0xD800 ∨ 0xDFFF < ch.toNat ∧ ch.toNat < 0x110000 := ch.valid
    have hhigh : isHighSurrogate ch.toNat = false := by
      simp [isHighSurrogate]
      omega
    have hlow : isLowSurrogate ch.toNat = false := by
      simp [isLowSurrogate]
      omega
    change unescape (0x5C :: 0x75 :: a :: b :: c :: d :: rest) = _
    rw [unescape.eq_def]
    simp only [hcode, hhigh, hlow, Bool.false_eq_true, if_false, Char.ofNat_toNat]

private theorem controlEscape_bytes {n : Nat} (h : n < 0x20) :
    let upper : UInt8 := 0x30 + UInt8.ofNat (n / 16)
    let lower : UInt8 := UInt8.ofNat (n % 16).digitChar.toNat
    (controlEscape (Char.ofNat n)).flatMap String.utf8EncodeChar =
        [0x5C, 0x75, 0x30, 0x30, upper, lower] ∧
      (isHexDigit 0x30 && isHexDigit 0x30 && isHexDigit upper && isHexDigit lower) = true ∧
      hexOfFour 0x30 0x30 upper lower = n := by
  revert n
  decide +kernel

/-- A character of a string is read as itself. -/
theorem readsAs_written (c : Char) : ReadsAs ((escapeChar c).flatMap String.utf8EncodeChar) c := by
  rw [escapeChar]
  split_ifs with h₁ h₂ h₃ h₄ h₅ h₆ h₇ hcontrol
  · subst h₁
    exact readsAs_short (e := 0x22) rfl (by decide) (by decide)
  · subst h₂
    exact readsAs_short (e := 0x5C) rfl (by decide) (by decide)
  · subst h₃
    exact readsAs_short (e := 0x62) rfl (by decide) (by decide)
  · subst h₄
    exact readsAs_short (e := 0x66) rfl (by decide) (by decide)
  · subst h₅
    exact readsAs_short (e := 0x6E) rfl (by decide) (by decide)
  · subst h₆
    exact readsAs_short (e := 0x72) rfl (by decide) (by decide)
  · subst h₇
    exact readsAs_short (e := 0x74) rfl (by decide) (by decide)
  · obtain ⟨hbytes, hdigits, hcode⟩ := controlEscape_bytes hcontrol
    rw [Char.ofNat_toNat] at hbytes
    rw [hbytes]
    exact readsAs_unit hdigits hcode
  · rw [List.flatMap_singleton]
    exact readsAs_plain h₁ h₂ hcontrol

/-! ### Strings -/

/-- A string ends where it is closed. -/
theorem scanString_raw (s : String) (rest : Bytes) :
    scanString (raw s ++ 0x22 :: rest) = some (raw s, rest) := by
  rw [raw]
  induction s.toList with
  | nil => rfl
  | cons c cs ih =>
    rw [List.flatMap_cons, List.flatMap_append, List.append_assoc, (readsAs_written c).scan, ih]
    rfl

/-- A string reads back as itself. -/
theorem textOf?_raw (s : String) : textOf? (raw s) = some s := by
  have hbytes : unescape (raw s) = some (Utf8.encode s) := by
    rw [raw, Utf8.encode]
    induction s.toList with
    | nil => rfl
    | cons c cs ih =>
      rw [List.flatMap_cons, List.flatMap_append, (readsAs_written c).unescape, ih]
      rfl
  rw [textOf?, hbytes, Option.bind_some, Utf8.decode_encode]
  rfl

end FlowConsole.Json
