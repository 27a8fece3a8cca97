import FlowConsole.Proofs.Text.Utf8
import FlowConsole.Text.Percent

/-!
# Spellings in percent encoding

Any of the characters of a text may be written as escapes, those that need it and others. The
spellings of a text are all that can arise so, with digits of either case. Decoding takes each of
them to the text, if the text itself has no percent sign (`decode_spells`). What it does with any
other bytes follows from the escapes that they hold (`decodes_iff`).
-/

namespace FlowConsole.Percent

open Utf8 (Bytes)

/-- The character is a hexadecimal digit of this value, in either case. -/
def IsDigitOf (n : Nat) (d : Char) : Prop := d ∈ [hexDigit n, (hexDigit n).toLower]

instance (n : Nat) (d : Char) : Decidable (IsDigitOf n d) :=
  inferInstanceAs (Decidable (d ∈ [hexDigit n, (hexDigit n).toLower]))

/-- `raw` writes each of the bytes as an escape. -/
inductive Escapes : List Char → Bytes → Prop
  | nil : Escapes [] []
  | byte {b : UInt8} {high low : Char} {raw : List Char} {bs : Bytes} :
      IsDigitOf (b.toNat / 16) high → IsDigitOf (b.toNat % 16) low → Escapes raw bs →
      Escapes ('%' :: high :: low :: raw) (b :: bs)

/-- `raw` is a spelling of the text: each character stands for itself, or for it stand the escapes
of the bytes of its UTF-8 form. -/
inductive Spells : List Char → List Char → Prop
  | nil : Spells [] []
  | plain (c : Char) {raw cs : List Char} : Spells raw cs → Spells (c :: raw) (c :: cs)
  | escaped (c : Char) {escapes raw cs : List Char} :
      Escapes escapes (String.utf8EncodeChar c) → Spells raw cs → Spells (escapes ++ raw) (c :: cs)

/-- A text is a spelling of itself. -/
theorem Spells.refl (cs : List Char) : Spells cs cs := by
  induction cs with
  | nil => exact .nil
  | cons c cs ih => exact .plain c ih

/-- Spellings of two texts one after the other spell the two texts. -/
theorem Spells.append {raw raw' cs cs' : List Char} (h : Spells raw cs) (h' : Spells raw' cs') :
    Spells (raw ++ raw') (cs ++ cs') := by
  induction h with
  | nil => exact h'
  | plain c _ ih => exact .plain c ih
  | escaped c he _ ih =>
    rw [List.append_assoc]
    exact .escaped c he ih

/-! ### Digits and bytes -/

private theorem digit_byte {n : Nat} (hn : n < 16) {d : Char}
    (hd : d ∈ [hexDigit n, (hexDigit n).toLower]) :
    String.utf8EncodeChar d = [UInt8.ofNat d.toNat] ∧
      hexValue? (UInt8.ofNat d.toNat) = some (UInt8.ofNat n) ∧ d ≠ '+' := by
  -- the cases are those of the value, since there are too many characters to go through
  have hupper : ∀ n < 16, String.utf8EncodeChar (hexDigit n) = [UInt8.ofNat (hexDigit n).toNat] ∧
      hexValue? (UInt8.ofNat (hexDigit n).toNat) = some (UInt8.ofNat n) ∧ hexDigit n ≠ '+' := by
    decide +kernel
  have hlower : ∀ n < 16,
      String.utf8EncodeChar (hexDigit n).toLower = [UInt8.ofNat (hexDigit n).toLower.toNat] ∧
      hexValue? (UInt8.ofNat (hexDigit n).toLower.toNat) = some (UInt8.ofNat n) ∧
      (hexDigit n).toLower ≠ '+' := by
    decide +kernel
  rw [List.mem_cons, List.mem_singleton] at hd
  rcases hd with rfl | rfl
  · exact hupper n hn
  · exact hlower n hn

private theorem high_lt (b : UInt8) : b.toNat / 16 < 16 := by
  have := b.toNat_lt
  omega

private theorem low_lt (b : UInt8) : b.toNat % 16 < 16 := Nat.mod_lt _ (by decide)

private theorem byte_of_digits (b : UInt8) :
    UInt8.ofNat (b.toNat / 16) * 16 + UInt8.ofNat (b.toNat % 16) = b := by
  have := b.toNat_lt
  apply UInt8.toNat_inj.mp
  simp only [UInt8.toNat_add, UInt8.toNat_mul, UInt8.toNat_ofNat', UInt8.reduceToNat]
  omega

/-- Only the percent sign has the byte of the percent sign. -/
theorem percent_not_mem {c : Char} (h : c ≠ '%') : 0x25 ∉ String.utf8EncodeChar c := by
  intro hmem
  exact h (Char.toNat_inj.mp (Utf8.toNat_of_mem_utf8EncodeChar hmem (by decide)).symm)

/-! ### Decoding -/

/-- A byte that is no percent sign stays. -/
theorem decode_cons_of_ne {b : UInt8} (h : b ≠ 0x25) (rest : Bytes) :
    decode (b :: rest) = b :: decode rest := by
  match rest with
  | [] => rfl
  | [_] => rfl
  | _ :: _ :: _ => rw [decode, if_neg h]

/-- Bytes without percent signs stay. -/
theorem decode_append_of_not_mem {bs : Bytes} (h : 0x25 ∉ bs) (rest : Bytes) :
    decode (bs ++ rest) = bs ++ decode rest := by
  induction bs with
  | nil => rfl
  | cons b bs ih =>
    rw [List.mem_cons, not_or] at h
    rw [List.cons_append, decode_cons_of_ne (Ne.symm h.1), ih h.2, List.cons_append]

/-- Escapes are read as the bytes that they write. -/
theorem decode_escapes {raw : List Char} {bs : Bytes} (h : Escapes raw bs) (rest : Bytes) :
    decode (raw.flatMap String.utf8EncodeChar ++ rest) = bs ++ decode rest := by
  induction h with
  | nil => rfl
  | @byte b high low raw bs hhigh hlow _ ih =>
    obtain ⟨hhb, hhv, -⟩ := digit_byte (high_lt b) hhigh
    obtain ⟨hlb, hlv, -⟩ := digit_byte (low_lt b) hlow
    rw [List.flatMap_cons, List.flatMap_cons, List.flatMap_cons, hhb, hlb]
    change decode (0x25 :: UInt8.ofNat high.toNat :: UInt8.ofNat low.toNat ::
      (raw.flatMap String.utf8EncodeChar ++ rest)) = _
    rw [decode, if_pos rfl, hhv, hlv]
    dsimp only
    rw [byte_of_digits, ih, List.cons_append]

/-- Decoding a spelling gives the text, if the text has no percent sign. -/
theorem decode_spells {raw cs : List Char} (h : Spells raw cs) (hp : '%' ∉ cs) :
    decode (raw.flatMap String.utf8EncodeChar) = cs.flatMap String.utf8EncodeChar := by
  induction h with
  | nil => rfl
  | plain c _ ih =>
    rw [List.mem_cons, not_or] at hp
    rw [List.flatMap_cons, List.flatMap_cons,
      decode_append_of_not_mem (percent_not_mem (Ne.symm hp.1)), ih hp.2]
  | escaped c he _ ih =>
    rw [List.mem_cons, not_or] at hp
    rw [List.flatMap_append, List.flatMap_cons, decode_escapes he, ih hp.2]

/-- The bytes start with an escape of the byte: a percent sign and its two digits. -/
def StartsWithEscape (bs : Bytes) (byte : UInt8) (rest : Bytes) : Prop :=
  ∃ first second high low, bs = 0x25 :: first :: second :: rest ∧
    hexValue? first = some high ∧ hexValue? second = some low ∧ byte = high * 16 + low

/-- The bytes with each escape, from the left, replaced by the byte that it names. -/
inductive Decodes : Bytes → Bytes → Prop
  | nil : Decodes [] []
  | escape {bs rest ds : Bytes} {byte : UInt8} :
    StartsWithEscape bs byte rest → Decodes rest ds → Decodes bs (byte :: ds)
  | byte {b : UInt8} {bs ds : Bytes} :
    (∀ byte rest, ¬StartsWithEscape (b :: bs) byte rest) → Decodes bs ds →
      Decodes (b :: bs) (b :: ds)

/-- Decoding replaces the escapes, and leaves any other percent sign as it is. -/
theorem decodes_decode (bs : Bytes) : Decodes bs (decode bs) := by
  fun_induction decode bs with
  | case1 => exact .nil
  | case2 a =>
    refine .byte ?_ .nil
    rintro byte rest ⟨first, second, high, low, h, -⟩
    cases h
  | case3 a b =>
    have hshort {c : UInt8} {cs : Bytes} (hlen : cs.length < 2) (byte : UInt8) (rest : Bytes) :
        ¬StartsWithEscape (c :: cs) byte rest := by
      rintro ⟨first, second, high, low, h, -⟩
      cases h
      exact absurd hlen (by simp)
    exact .byte (hshort (by simp)) (.byte (hshort (by simp)) .nil)
  | case4 b c rest high low hlow hhigh ih =>
    exact .escape ⟨b, c, high, low, rfl, hhigh, hlow, rfl⟩ ih
  | case5 b c rest hno ih =>
    refine .byte ?_ ih
    rintro byte rest ⟨first, second, high, low, h, hhigh, hlow, -⟩
    cases h
    exact hno high low hhigh hlow
  | case6 a b c rest hne ih =>
    refine .byte ?_ ih
    rintro byte rest ⟨first, second, high, low, h, -⟩
    cases h
    exact hne rfl

private theorem decode_cons_of_not_startsWithEscape {b : UInt8} {bs : Bytes}
    (h : ∀ byte rest, ¬StartsWithEscape (b :: bs) byte rest) :
    decode (b :: bs) = b :: decode bs := by
  match bs with
  | [] => rfl
  | [_] => rfl
  | first :: second :: rest =>
    rw [decode]
    split_ifs with hb
    · split
      · next high low hhigh hlow =>
        rw [hb] at h
        exact absurd ⟨first, second, high, low, rfl, hhigh, hlow, rfl⟩ (h (high * 16 + low) rest)
      · rfl
    · rfl

/-- What bytes decode to is determined by their escapes. -/
theorem decodes_iff {bs ds : Bytes} : Decodes bs ds ↔ decode bs = ds := by
  constructor
  · intro h
    induction h with
    | nil => rfl
    | escape hstart _ ih =>
      obtain ⟨first, second, high, low, rfl, hhigh, hlow, rfl⟩ := hstart
      rw [decode, if_pos rfl, hhigh, hlow]
      dsimp only
      rw [ih]
    | byte hno _ ih => rw [decode_cons_of_not_startsWithEscape hno, ih]
  · rintro rfl
    exact decodes_decode bs

/-- There is no plus sign in escapes. -/
theorem Escapes.plus_not_mem {raw : List Char} {bs : Bytes} (h : Escapes raw bs) : '+' ∉ raw := by
  induction h with
  | nil => exact List.not_mem_nil
  | @byte b high low raw bs hhigh hlow _ ih =>
    obtain ⟨-, -, hh⟩ := digit_byte (high_lt b) hhigh
    obtain ⟨-, -, hl⟩ := digit_byte (low_lt b) hlow
    simp only [List.mem_cons, not_or]
    exact ⟨by decide, hh.symm, hl.symm, ih⟩

/-- There is no plus sign in a spelling of a text without one. -/
theorem Spells.plus_not_mem {raw cs : List Char} (h : Spells raw cs) (hp : '+' ∉ cs) :
    '+' ∉ raw := by
  induction h with
  | nil => exact hp
  | plain c _ ih =>
    rw [List.mem_cons, not_or] at hp ⊢
    exact ⟨hp.1, ih hp.2⟩
  | escaped c he _ ih =>
    rw [List.mem_cons, not_or] at hp
    rw [List.mem_append, not_or]
    exact ⟨he.plus_not_mem, ih hp.2⟩

end FlowConsole.Percent
