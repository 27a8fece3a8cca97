import FlowConsole.Proofs.Outcome
import FlowConsole.Text.Utf8
import Mathlib.Tactic.Common

/-!
# Decoding undoes encoding

The UTF-8 form of a character is read as one piece, whatever follows it
(`pieces_utf8EncodeChar_append`), so that decoding the form of a text gives the text back
(`decode_encode`). A piece that is a character is read from its UTF-8 form only
(`exists_append_of_pieces`), so that nothing but the form of a text is decoded to it
(`decode_eq_ok`).
-/

namespace FlowConsole.Utf8

/-! ### Pieces by the number of their bytes -/

private theorem isContinuation_iff (b : UInt8) :
    isContinuation b = true ↔ 128 ≤ b.toNat ∧ b.toNat ≤ 191 := by
  simp [isContinuation, UInt8.le_iff_toNat_le]

private theorem isSecondOfThree_of_bounds {b₀ b₁ : UInt8} (h : 128 ≤ b₁.toNat ∧ b₁.toNat ≤ 191)
    (hlow : b₀.toNat = 224 → 160 ≤ b₁.toNat) (hhigh : b₀.toNat = 237 → b₁.toNat ≤ 159) :
    isSecondOfThree b₀ b₁ = true := by
  rw [isSecondOfThree]
  split_ifs with he hd
  · simp [UInt8.le_iff_toNat_le, hlow (congrArg UInt8.toNat he), h.2]
  · simp [UInt8.le_iff_toNat_le, hhigh (congrArg UInt8.toNat hd), h.1]
  · exact (isContinuation_iff b₁).mpr h

private theorem isSecondOfFour_of_bounds {b₀ b₁ : UInt8} (h : 128 ≤ b₁.toNat ∧ b₁.toNat ≤ 191)
    (hlow : b₀.toNat = 240 → 144 ≤ b₁.toNat) (hhigh : b₀.toNat = 244 → b₁.toNat ≤ 143) :
    isSecondOfFour b₀ b₁ = true := by
  rw [isSecondOfFour]
  split_ifs with he hd
  · simp [UInt8.le_iff_toNat_le, hlow (congrArg UInt8.toNat he), h.2]
  · simp [UInt8.le_iff_toNat_le, hhigh (congrArg UInt8.toNat hd), h.1]
  · exact (isContinuation_iff b₁).mpr h

private theorem not_lt_of_toNat {a b : UInt8} (h : b.toNat ≤ a.toNat) : ¬a < b := by
  rw [UInt8.lt_iff_toNat_lt]
  omega

private theorem between_of_toNat {a b c : UInt8} (hab : a.toNat ≤ b.toNat)
    (hbc : b.toNat ≤ c.toNat) : (decide (a ≤ b) && decide (b ≤ c)) = true := by
  simp [UInt8.le_iff_toNat_le, hab, hbc]

private theorem not_between_of_toNat {a b c : UInt8} (h : c.toNat < b.toNat) :
    ¬(decide (a ≤ b) && decide (b ≤ c)) = true := by
  simp [UInt8.le_iff_toNat_le, h]

private theorem pieces_one {b : UInt8} (h : b.toNat < 128) (rest : Bytes) :
    pieces (b :: rest) = .char (Char.ofNat b.toNat) :: pieces rest := by
  have hb : b < 0x80 := UInt8.lt_iff_toNat_lt.mpr h
  rw [pieces.eq_def]
  dsimp only
  rw [if_pos hb]

private theorem pieces_two {b₀ b₁ : UInt8} (h₀ : 194 ≤ b₀.toNat ∧ b₀.toNat ≤ 223)
    (h₁ : 128 ≤ b₁.toNat ∧ b₁.toNat ≤ 191) (rest : Bytes) :
    pieces (b₀ :: b₁ :: rest) =
      .char (Char.ofNat (b₀.toNat % 32 * 64 + payload b₁)) :: pieces rest := by
  rw [pieces.eq_def]
  dsimp only
  rw [if_neg (not_lt_of_toNat (by simp; omega)),
    if_pos (between_of_toNat (by simpa using h₀.1) (by simpa using h₀.2)),
    if_pos ((isContinuation_iff b₁).mpr h₁)]

private theorem pieces_three {b₀ b₁ b₂ : UInt8} (h₀ : 224 ≤ b₀.toNat ∧ b₀.toNat ≤ 239)
    (h₁ : isSecondOfThree b₀ b₁ = true) (h₂ : 128 ≤ b₂.toNat ∧ b₂.toNat ≤ 191) (rest : Bytes) :
    pieces (b₀ :: b₁ :: b₂ :: rest) =
      .char (Char.ofNat ((b₀.toNat % 16 * 64 + payload b₁) * 64 + payload b₂)) :: pieces rest := by
  rw [pieces.eq_def]
  dsimp only
  rw [if_neg (not_lt_of_toNat (by simp; omega)), if_neg (not_between_of_toNat (by simp; omega)),
    if_pos (between_of_toNat (by simpa using h₀.1) (by simpa using h₀.2)), if_pos h₁,
    if_pos ((isContinuation_iff b₂).mpr h₂)]

private theorem pieces_four {b₀ b₁ b₂ b₃ : UInt8} (h₀ : 240 ≤ b₀.toNat ∧ b₀.toNat ≤ 244)
    (h₁ : isSecondOfFour b₀ b₁ = true) (h₂ : 128 ≤ b₂.toNat ∧ b₂.toNat ≤ 191)
    (h₃ : 128 ≤ b₃.toNat ∧ b₃.toNat ≤ 191) (rest : Bytes) :
    pieces (b₀ :: b₁ :: b₂ :: b₃ :: rest) =
      .char (Char.ofNat
        (((b₀.toNat % 8 * 64 + payload b₁) * 64 + payload b₂) * 64 + payload b₃)) ::
        pieces rest := by
  rw [pieces.eq_def]
  dsimp only
  rw [if_neg (not_lt_of_toNat (by simp; omega)), if_neg (not_between_of_toNat (by simp; omega)),
    if_neg (not_between_of_toNat (by simp; omega)),
    if_pos (between_of_toNat (by simpa using h₀.1) (by simpa using h₀.2)),
    if_pos h₁, if_pos ((isContinuation_iff b₂).mpr h₂), if_pos ((isContinuation_iff b₃).mpr h₃)]

/-! ### Characters and texts -/

private theorem toNat_byte {n : Nat} (h : n < 256) : (UInt8.ofNat n).toNat = n := by
  rw [UInt8.toNat_ofNat']
  exact Nat.mod_eq_of_lt h

/-- A byte of the ASCII range in the form of a character is the whole of it. -/
theorem toNat_of_mem_utf8EncodeChar {c : Char} {b : UInt8} (h : b ∈ String.utf8EncodeChar c)
    (hb : b.toNat < 128) : b.toNat = c.toNat := by
  have hbyte {n : Nat} (hn : n < 256) (hlow : 128 ≤ n) : b ≠ UInt8.ofNat n := by
    rintro rfl
    rw [toNat_byte hn] at hb
    omega
  rw [String.utf8EncodeChar] at h
  change b.toNat = c.val.toNat
  generalize c.val.toNat = n at h ⊢
  split_ifs at h with h₁ h₂ h₃ <;> simp only [List.mem_cons, List.not_mem_nil, or_false] at h
  · rw [h, toNat_byte (by omega)]
  · rcases h with h | h <;> exact absurd h (hbyte (by omega) (by omega))
  · rcases h with h | h | h <;> exact absurd h (hbyte (by omega) (by omega))
  · rcases h with h | h | h | h <;> exact absurd h (hbyte (by omega) (by omega))

/-- The UTF-8 form of a character is read as this character. -/
theorem pieces_utf8EncodeChar_append (c : Char) (rest : Bytes) :
    pieces (String.utf8EncodeChar c ++ rest) = .char c :: pieces rest := by
  have hscalar : c.val.toNat < 0xD800 ∨ (0xDFFF < c.val.toNat ∧ c.val.toNat < 0x110000) := c.valid
  have hchar : Char.ofNat c.val.toNat = c := Char.ofNat_toNat c
  rw [String.utf8EncodeChar]
  generalize c.val.toNat = n at hscalar hchar ⊢
  subst hchar
  -- the bounds of each byte follow from those of the code point
  split_ifs with h₁ h₂ h₃
  · have hb : (UInt8.ofNat n).toNat = n := toNat_byte (by omega)
    rw [List.singleton_append, pieces_one (by omega), hb]
  · have hb₀ : (UInt8.ofNat (n / 64 % 32 + 192)).toNat = _ := toNat_byte (by omega)
    have hb₁ : (UInt8.ofNat (n % 64 + 128)).toNat = _ := toNat_byte (by omega)
    change pieces (_ :: _ :: rest) = _
    rw [pieces_two (by omega) (by omega), payload, hb₀, hb₁]
    congr 3
    omega
  · have hb₀ : (UInt8.ofNat (n / 4096 % 16 + 224)).toNat = _ := toNat_byte (by omega)
    have hb₁ : (UInt8.ofNat (n / 64 % 64 + 128)).toNat = _ := toNat_byte (by omega)
    have hb₂ : (UInt8.ofNat (n % 64 + 128)).toNat = _ := toNat_byte (by omega)
    change pieces (_ :: _ :: _ :: rest) = _
    rw [pieces_three (by omega) (isSecondOfThree_of_bounds (by omega) (by omega) (by omega))
      (by omega), payload, payload, hb₀, hb₁, hb₂]
    congr 3
    omega
  · have hb₀ : (UInt8.ofNat (n / 262144 % 8 + 240)).toNat = _ := toNat_byte (by omega)
    have hb₁ : (UInt8.ofNat (n / 4096 % 64 + 128)).toNat = _ := toNat_byte (by omega)
    have hb₂ : (UInt8.ofNat (n / 64 % 64 + 128)).toNat = _ := toNat_byte (by omega)
    have hb₃ : (UInt8.ofNat (n % 64 + 128)).toNat = _ := toNat_byte (by omega)
    change pieces (_ :: _ :: _ :: _ :: rest) = _
    rw [pieces_four (by omega) (isSecondOfFour_of_bounds (by omega) (by omega) (by omega))
      (by omega) (by omega), payload, payload, payload, hb₀, hb₁, hb₂, hb₃]
    congr 3
    omega

/-- The UTF-8 form of a list of characters is read as these characters. -/
theorem pieces_flatMap_utf8EncodeChar (cs : List Char) :
    pieces (cs.flatMap String.utf8EncodeChar) = cs.map .char := by
  induction cs with
  | nil => rfl
  | cons c cs ih => rw [List.flatMap_cons, pieces_utf8EncodeChar_append, ih, List.map_cons]

/-- Strict decoding accepts just what has no broken piece. -/
theorem strict_eq_ok {index : Nat} {ps : List Piece} {cs : List Char} :
    strict index ps = .ok cs ↔ ps = cs.map .char := by
  induction ps generalizing index cs with
  | nil => cases cs <;> simp [strict]
  | cons p ps ih =>
    cases p with
    | broken size isOpen => cases cs <;> simp [strict]
    | char c =>
      rw [strict]
      cases cs with
      | nil => cases strict (index + c.utf8Size) ps <;> simp [Except.map]
      | cons d ds =>
        have hrest := @ih (index + c.utf8Size) ds
        rw [List.map_cons, List.cons.injEq, ← hrest]
        cases strict (index + c.utf8Size) ps <;> simp [Except.map]

/-- The UTF-8 form of a text is that of its first part and that of the rest. -/
theorem encode_append (s t : String) : encode (s ++ t) = encode s ++ encode t := by
  rw [encode, String.toList_append, List.flatMap_append]
  rfl

/-- Decoding the UTF-8 form of a text gives the text. -/
theorem decode_encode (s : String) : decode (encode s) = .ok s := by
  rw [decode, encode, pieces_flatMap_utf8EncodeChar, strict_eq_ok.mpr rfl]
  exact congrArg Except.ok String.ofList_toList

/-- Tolerant decoding of the UTF-8 form of a text gives the text. -/
theorem decodeTolerant_encode (s : String) : decodeTolerant (encode s) = s := by
  have hchars : s.toList.map (Piece.tolerant ∘ .char) = s.toList := List.map_id _
  rw [decodeTolerant, encode, pieces_flatMap_utf8EncodeChar, List.map_map, hchars,
    String.ofList_toList]

/-! ### Bytes of decoded texts -/

private theorem bounds_of_second {b₀ b₁ x y low high : UInt8} (hlow : 128 ≤ low.toNat)
    (hhigh : high.toNat ≤ 191)
    (h : (if b₀ = x then low ≤ b₁ && b₁ ≤ 0xBF
      else if b₀ = y then 0x80 ≤ b₁ && b₁ ≤ high else isContinuation b₁) = true) :
    (128 ≤ b₁.toNat ∧ b₁.toNat ≤ 191) ∧ (b₀ = x → low.toNat ≤ b₁.toNat) ∧
      (b₀ ≠ x → b₀ = y → b₁.toNat ≤ high.toNat) := by
  split_ifs at h with hx hy
  · simp only [Bool.and_eq_true, decide_eq_true_eq, UInt8.le_iff_toNat_le, UInt8.reduceToNat] at h
    exact ⟨⟨by omega, h.2⟩, fun _ => h.1, fun hne => absurd hx hne⟩
  · simp only [Bool.and_eq_true, decide_eq_true_eq, UInt8.le_iff_toNat_le, UInt8.reduceToNat] at h
    exact ⟨⟨h.1, by omega⟩, fun he => absurd he hx, fun _ _ => h.2⟩
  · exact ⟨(isContinuation_iff b₁).mp h, fun he => absurd he hx, fun _ he => absurd he hy⟩

private theorem bounds_of_isSecondOfThree {b₀ b₁ : UInt8} (h : isSecondOfThree b₀ b₁ = true) :
    (128 ≤ b₁.toNat ∧ b₁.toNat ≤ 191) ∧ (b₀.toNat = 224 → 160 ≤ b₁.toNat) ∧
      (b₀.toNat = 237 → b₁.toNat ≤ 159) := by
  obtain ⟨hbounds, hlow, hhigh⟩ := bounds_of_second (by decide) (by decide) h
  refine ⟨hbounds, fun he => hlow (UInt8.toNat_inj.mp he),
    fun he => hhigh ?_ (UInt8.toNat_inj.mp he)⟩
  rintro rfl
  cases he

private theorem bounds_of_isSecondOfFour {b₀ b₁ : UInt8} (h : isSecondOfFour b₀ b₁ = true) :
    (128 ≤ b₁.toNat ∧ b₁.toNat ≤ 191) ∧ (b₀.toNat = 240 → 144 ≤ b₁.toNat) ∧
      (b₀.toNat = 244 → b₁.toNat ≤ 143) := by
  obtain ⟨hbounds, hlow, hhigh⟩ := bounds_of_second (by decide) (by decide) h
  refine ⟨hbounds, fun he => hlow (UInt8.toNat_inj.mp he),
    fun he => hhigh ?_ (UInt8.toNat_inj.mp he)⟩
  rintro rfl
  cases he

private theorem bounds_of_between {a b c : UInt8} (h : (decide (a ≤ b) && decide (b ≤ c)) = true) :
    a.toNat ≤ b.toNat ∧ b.toNat ≤ c.toNat := by
  simpa [UInt8.le_iff_toNat_le] using h

private theorem ofNat_eq_byte {n : Nat} {b : UInt8} (h : n = b.toNat) : UInt8.ofNat n = b := by
  rw [h, UInt8.ofNat_toNat]

private theorem val_ofNat {n : Nat} (h : n < 0xD800 ∨ 0xDFFF < n ∧ n < 0x110000) :
    (Char.ofNat n).val.toNat = n := by
  have hvalid : n.isValidChar := h
  rw [Char.ofNat, dif_pos hvalid]
  rfl

private theorem utf8EncodeChar_one {b : UInt8} (h : b.toNat < 128) :
    String.utf8EncodeChar (Char.ofNat b.toNat) = [b] := by
  rw [String.utf8EncodeChar, val_ofNat (by omega), if_pos (by omega), UInt8.ofNat_toNat]

private theorem utf8EncodeChar_two {b₀ b₁ : UInt8} (h₀ : 194 ≤ b₀.toNat ∧ b₀.toNat ≤ 223)
    (h₁ : 128 ≤ b₁.toNat ∧ b₁.toNat ≤ 191) :
    String.utf8EncodeChar (Char.ofNat (b₀.toNat % 32 * 64 + payload b₁)) = [b₀, b₁] := by
  rw [String.utf8EncodeChar, payload, val_ofNat (by omega), if_neg (by omega), if_pos (by omega),
    ofNat_eq_byte (b := b₀) (by omega), ofNat_eq_byte (b := b₁) (by omega)]

private theorem utf8EncodeChar_three {b₀ b₁ b₂ : UInt8} (h₀ : 224 ≤ b₀.toNat ∧ b₀.toNat ≤ 239)
    (h₁ : isSecondOfThree b₀ b₁ = true) (h₂ : 128 ≤ b₂.toNat ∧ b₂.toNat ≤ 191) :
    String.utf8EncodeChar (Char.ofNat ((b₀.toNat % 16 * 64 + payload b₁) * 64 + payload b₂)) =
      [b₀, b₁, b₂] := by
  have hsecond := bounds_of_isSecondOfThree h₁
  rw [String.utf8EncodeChar, payload, payload, val_ofNat (by omega), if_neg (by omega),
    if_neg (by omega), if_pos (by omega), ofNat_eq_byte (b := b₀) (by omega),
    ofNat_eq_byte (b := b₁) (by omega), ofNat_eq_byte (b := b₂) (by omega)]

private theorem utf8EncodeChar_four {b₀ b₁ b₂ b₃ : UInt8} (h₀ : 240 ≤ b₀.toNat ∧ b₀.toNat ≤ 244)
    (h₁ : isSecondOfFour b₀ b₁ = true) (h₂ : 128 ≤ b₂.toNat ∧ b₂.toNat ≤ 191)
    (h₃ : 128 ≤ b₃.toNat ∧ b₃.toNat ≤ 191) :
    String.utf8EncodeChar (Char.ofNat
      (((b₀.toNat % 8 * 64 + payload b₁) * 64 + payload b₂) * 64 + payload b₃)) =
      [b₀, b₁, b₂, b₃] := by
  have hsecond := bounds_of_isSecondOfFour h₁
  rw [String.utf8EncodeChar, payload, payload, payload, val_ofNat (by omega), if_neg (by omega),
    if_neg (by omega), if_neg (by omega), ofNat_eq_byte (b := b₀) (by omega),
    ofNat_eq_byte (b := b₁) (by omega), ofNat_eq_byte (b := b₂) (by omega),
    ofNat_eq_byte (b := b₃) (by omega)]

/-- Where the first piece is a character, the bytes start with its UTF-8 form. -/
theorem exists_append_of_pieces {bs : Bytes} {c : Char} {ps : List Piece} :
    pieces bs = .char c :: ps →
      ∃ rest, bs = String.utf8EncodeChar c ++ rest ∧ pieces rest = ps := by
  fun_cases pieces bs with
  | case2 b₀ rest hone =>
    intro h
    cases h
    exact ⟨rest, by rw [utf8EncodeChar_one (UInt8.lt_iff_toNat_lt.mp hone)]; rfl, rfl⟩
  | case4 b₀ _ htwo b₁ rest hcont =>
    intro h
    cases h
    refine ⟨rest, ?_, rfl⟩
    rw [utf8EncodeChar_two (bounds_of_between htwo) ((isContinuation_iff b₁).mp hcont)]
    rfl
  | case8 b₀ _ _ hthree b₁ hsecond b₂ rest hcont =>
    intro h
    cases h
    refine ⟨rest, ?_, rfl⟩
    rw [utf8EncodeChar_three (bounds_of_between hthree) hsecond ((isContinuation_iff b₂).mp hcont)]
    rfl
  | case14 b₀ _ _ _ hfour b₁ hsecond b₂ hcont b₃ rest hcont' =>
    intro h
    cases h
    refine ⟨rest, ?_, rfl⟩
    rw [utf8EncodeChar_four (bounds_of_between hfour) hsecond ((isContinuation_iff b₂).mp hcont)
      ((isContinuation_iff b₃).mp hcont')]
    rfl
  | _ =>
    intro h
    cases h

/-- Bytes whose pieces are all characters are the UTF-8 form of these. -/
theorem flatMap_of_pieces {bs : Bytes} {cs : List Char} (h : pieces bs = cs.map .char) :
    cs.flatMap String.utf8EncodeChar = bs := by
  induction cs generalizing bs with
  | nil =>
    revert h
    fun_cases pieces bs with
    | case1 => exact fun _ => rfl
    | _ =>
      intro h
      cases h
  | cons c cs ih =>
    obtain ⟨rest, rfl, hrest⟩ := exists_append_of_pieces h
    rw [List.flatMap_cons, ih hrest]

/-- Bytes are decoded just to the text that they are the UTF-8 form of. -/
theorem decode_eq_ok {bs : Bytes} {s : String} : decode bs = .ok s ↔ bs = encode s := by
  constructor
  · intro h
    obtain ⟨cs, hcs, rfl⟩ := Outcome.map_eq_ok.mp h
    rw [encode, String.toList_ofList, flatMap_of_pieces (strict_eq_ok.mp hcs)]
  · rintro rfl
    exact decode_encode s

end FlowConsole.Utf8
