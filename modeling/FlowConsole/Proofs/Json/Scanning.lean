import FlowConsole.Proofs.Json.Numbers
import FlowConsole.Proofs.Json.Strings
import FlowConsole.Proofs.Text.Characters
import Mathlib.Data.List.Forall2

/-!
# The structure of printed values

How the texts of values are read, before strings and numbers get their values: what stands between
brackets and braces is read item by item and member by member (`scans_array`, `scans_object`), with
fuel for each of its bytes. Texts of containers have this form (`encode_render_array`,
`encode_render_object`).
-/

open FlowConsole.Json.Tree (scanValue scanItems scanMembers isBlank skipBlanks)

namespace FlowConsole.Json

open Utf8 (Bytes)

/-- The bytes are read as the tree, wherever a value may end, and start a value. -/
structure Scans (bs : Bytes) (t : Tree) : Prop where
  starts : ∃ b tail, bs = b :: tail ∧ isBlank b = false ∧ b ≠ 0x5D
  scan : ∀ (fuel : Nat) (rest : Bytes), Ends rest → bs.length < fuel →
    scanValue fuel (bs ++ rest) = some (t, rest)

private theorem skipBlanks_cons {b : UInt8} (h : isBlank b = false) (bs : Bytes) :
    skipBlanks (b :: bs) = b :: bs := by
  rw [skipBlanks, List.dropWhile_cons, h]
  rfl

private theorem ends_cons {b : UInt8} (h : b = 0x2C ∨ b = 0x5D ∨ b = 0x7D) (rest : Bytes) :
    Ends (b :: rest) := by
  rintro _ ⟨rfl⟩
  exact h

/-- Bytes that start a value are read as the tree if they are with enough fuel for the others. -/
theorem scans_of_fuel {b : UInt8} {tail : Bytes} {t : Tree} (hblank : isBlank b = false)
    (hclose : b ≠ 0x5D)
    (h : ∀ fuel rest, Ends rest → tail.length < fuel →
      scanValue (fuel + 1) (b :: (tail ++ rest)) = some (t, rest)) :
    Scans (b :: tail) t where
  starts := ⟨b, tail, rfl, hblank, hclose⟩
  scan fuel rest hrest hfuel := by
    cases fuel with
    | zero => cases hfuel
    | succ fuel => exact h fuel rest hrest (Nat.lt_of_succ_lt_succ hfuel)

/-- A string is read as its tree. -/
theorem scans_string (s : String) :
    Scans (Utf8.encode (render (.string s))) (.string (raw s)) := by
  rw [render, encode_quote]
  refine scans_of_fuel (by decide) (by decide) fun fuel rest _ _ => ?_
  change (Tree.scanString (raw s ++ [0x22] ++ rest)).map _ = _
  rw [List.append_assoc, List.singleton_append, scanString_raw]
  rfl

private theorem exists_first {bs rest : Bytes} {m : Numeral}
    (h : Tree.scanNumeral bs = some (m, rest)) :
    ∃ b tail, bs = b :: tail ∧ (b = 0x2D ∨ Tree.isDigit b = true) := by
  cases bs with
  | nil => cases h
  | cons b tail =>
    refine ⟨b, tail, rfl, ?_⟩
    by_contra hb
    obtain ⟨hsign, hdigit⟩ := not_or.mp hb
    have hfirst : (b :: tail).head? ≠ some 0x2D := fun h => hsign (Option.some.inj h)
    have hdigits : Tree.scanDigits (b :: tail) = ([], b :: tail) := by
      rw [Tree.scanDigits, List.takeWhile_cons_of_neg hdigit, List.dropWhile_cons_of_neg hdigit]
      rfl
    have hwhole : Tree.scanWhole (b :: tail) = none := by
      rw [Tree.scanWhole, hdigits]
    simp only [Tree.scanNumeral, hfirst, decide_false, if_false, hwhole] at h
    cases h

private theorem ne_of_first {b c : UInt8} (hb : b = 0x2D ∨ Tree.isDigit b = true)
    (hc : ¬(c = 0x2D ∨ Tree.isDigit c = true)) : b ≠ c := by
  rintro rfl
  exact hc hb

private theorem isBlank_of_first {b : UInt8} (hb : b = 0x2D ∨ Tree.isDigit b = true) :
    isBlank b = false := by
  simp only [isBlank, beq_eq_false_iff_ne.mpr (ne_of_first hb (c := 0x20) (by decide)),
    beq_eq_false_iff_ne.mpr (ne_of_first hb (c := 0x09) (by decide)),
    beq_eq_false_iff_ne.mpr (ne_of_first hb (c := 0x0A) (by decide)),
    beq_eq_false_iff_ne.mpr (ne_of_first hb (c := 0x0D) (by decide)), Bool.or_self]

private theorem scanValue_number {b : UInt8} (hb : b = 0x2D ∨ Tree.isDigit b = true) (fuel : Nat)
    (bs : Bytes) :
    scanValue (fuel + 1) (b :: bs) =
      (Tree.scanNumeral (b :: bs)).map fun p => (.number p.1, p.2) := by
  have hne {c : UInt8} (hc : ¬(c = 0x2D ∨ Tree.isDigit c = true)) {bs' : Bytes} :
      b :: bs ≠ c :: bs' := fun h => ne_of_first hb hc (List.cons.inj h).1
  rw [scanValue, skipBlanks_cons (isBlank_of_first hb)]
  split
  · next h => exact absurd h (hne (by decide))
  · next h => exact absurd h (hne (by decide))
  · next h => exact absurd h (hne (by decide))
  · rw [Tree.scanAtom.eq_def]
    split
    · next h => exact absurd h (hne (by decide))
    · next h => exact absurd h (hne (by decide))
    · next h => exact absurd h (hne (by decide))
    · rfl

/-- A number is read as its tree. -/
theorem exists_scans_number {n : Number} (h : n.ReadsBack) :
    ∃ m : Numeral, m.value? = some n ∧ Scans (Utf8.encode n.render) (.number m) := by
  obtain ⟨m, hvalue, hscan⟩ := h
  have hempty := hscan [] nofun
  rw [List.append_nil] at hempty
  obtain ⟨b, tail, hbytes, hb⟩ := exists_first hempty
  refine ⟨m, hvalue, ?_⟩
  rw [hbytes] at hscan ⊢
  refine scans_of_fuel (isBlank_of_first hb) (ne_of_first hb (by decide))
    fun fuel rest hrest _ => ?_
  rw [scanValue_number hb, ← List.cons_append, hscan rest hrest]
  rfl

/-! ### Containers -/

/-- Bytes with commas between them. -/
def joined : List Bytes → Bytes
  | [] => []
  | bs :: rest => bs ++ rest.flatMap (0x2C :: ·)

private theorem joined_cons_cons (bs bs' : Bytes) (bss : List Bytes) :
    joined (bs :: bs' :: bss) = bs ++ 0x2C :: joined (bs' :: bss) := by
  simp [joined]

private theorem scanItems_joined {bs : Bytes} {t : Tree} (h : Scans bs t) {bss : List Bytes}
    {ts : List Tree} (hs : List.Forall₂ Scans bss ts) {fuel : Nat} {rest : Bytes}
    (hfuel : (joined (bs :: bss)).length + 2 ≤ fuel) :
    scanItems fuel (joined (bs :: bss) ++ 0x5D :: rest) = some (t :: ts, rest) := by
  -- By induction on the items after the first. An item and its comma are at least as many bytes as
  -- the fuel that reading them takes.
  induction hs generalizing bs t fuel with
  | nil =>
    rw [joined, List.flatMap_nil, List.append_nil] at hfuel ⊢
    cases fuel with
    | zero => cases hfuel
    | succ fuel =>
      rw [scanItems, h.scan fuel _ (ends_cons (.inr (.inl rfl)) rest) (by omega)]
      rfl
  | @cons bs' t' bss ts hx _ ih =>
    rw [joined_cons_cons, List.length_append, List.length_cons] at hfuel
    cases fuel with
    | zero => cases hfuel
    | succ fuel =>
      rw [joined_cons_cons, List.append_assoc, List.cons_append, scanItems,
        h.scan fuel _ (ends_cons (.inl rfl) _) (by omega)]
      change (scanItems fuel _).map _ = _
      rw [ih hx (by omega)]
      rfl

private theorem scanValue_bracket {bs : Bytes} (h : ∀ rest, skipBlanks bs ≠ 0x5D :: rest)
    (fuel : Nat) :
    scanValue (fuel + 1) (0x5B :: bs) =
      (scanItems fuel bs).map fun p => (Tree.array p.1, p.2) := by
  rw [scanValue, skipBlanks_cons (by decide)]
  split
  · next hquote => exact absurd (List.cons.inj hquote).1 (by decide)
  · next items hitems =>
    rw [← (List.cons.inj hitems).2]
    split
    · next rest hrest => exact absurd hrest (h rest)
    · rfl
  · next hbrace => exact absurd (List.cons.inj hbrace).1 (by decide)
  · next hbracket _ => exact (hbracket bs rfl).elim

/-- An array is read as its tree. -/
theorem scans_array {bss : List Bytes} {ts : List Tree} (hs : List.Forall₂ Scans bss ts) :
    Scans (0x5B :: (joined bss ++ [0x5D])) (.array ts) := by
  refine scans_of_fuel (by decide) (by decide) fun fuel rest _ hfuel => ?_
  rw [List.append_assoc, List.singleton_append]
  cases hs with
  | nil => rfl
  | @cons bs t bss ts hx hs =>
    obtain ⟨b, tail, hbytes, hblank, hclose⟩ := hx.starts
    have hfirst (after : Bytes) :
        skipBlanks (joined (bs :: bss) ++ 0x5D :: rest) ≠ 0x5D :: after := by
      rw [joined, hbytes, List.cons_append, List.cons_append, skipBlanks_cons hblank]
      exact fun h => hclose (List.cons.inj h).1
    rw [List.length_append] at hfuel
    rw [scanValue_bracket hfirst, scanItems_joined hx hs hfuel]
    rfl

/-- A key and a value with a colon between them. -/
def memberBytes (key : String) (bs : Bytes) : Bytes := Utf8.encode (quote key) ++ 0x3A :: bs

/-- The bytes are read as the member of an object. -/
def ScansMember (bs : Bytes) (m : Bytes × Tree) : Prop :=
  ∃ key value, bs = memberBytes key value ∧ m.1 = raw key ∧ Scans value m.2

/-- What is read of an object after a member of it. -/
private def afterMember (m : Bytes × Tree) (fuel : Nat) (rest : Bytes) :
    Option (List (Bytes × Tree) × Bytes) :=
  match skipBlanks rest with
  | 0x2C :: rest => (scanMembers fuel rest).map fun p => (m :: p.1, p.2)
  | 0x7D :: rest => some ([m], rest)
  | _ => none

private theorem scanMembers_member {bs : Bytes} {m : Bytes × Tree} (h : ScansMember bs m)
    {fuel : Nat} (hfuel : bs.length < fuel) {rest : Bytes} (hrest : Ends rest) :
    scanMembers (fuel + 1) (bs ++ rest) = afterMember m fuel rest := by
  obtain ⟨key, value, hbs, hkey, hvalue⟩ := h
  have hbytes : bs ++ rest = 0x22 :: (raw key ++ 0x22 :: 0x3A :: (value ++ rest)) := by
    simp [hbs, memberBytes, encode_quote]
  have hlength : value.length < fuel := by
    rw [hbs, memberBytes, List.length_append, List.length_cons] at hfuel
    omega
  rw [hbytes, scanMembers, skipBlanks_cons (by decide)]
  split
  · next after hafter =>
    rw [← (List.cons.inj hafter).2, scanString_raw]
    dsimp only
    rw [skipBlanks_cons (by decide)]
    split
    · next after hafter =>
      rw [← (List.cons.inj hafter).2, hvalue.scan fuel rest hrest hlength, ← hkey]
      rfl
    · next hcolon => exact absurd rfl (hcolon _)
  · next hquote => exact absurd rfl (hquote _)

private theorem scanMembers_joined {bs : Bytes} {m : Bytes × Tree} (h : ScansMember bs m)
    {bss : List Bytes} {ms : List (Bytes × Tree)} (hs : List.Forall₂ ScansMember bss ms)
    {fuel : Nat} {rest : Bytes} (hfuel : (joined (bs :: bss)).length + 2 ≤ fuel) :
    scanMembers fuel (joined (bs :: bss) ++ 0x7D :: rest) = some (m :: ms, rest) := by
  induction hs generalizing bs m fuel with
  | nil =>
    rw [joined, List.flatMap_nil, List.append_nil] at hfuel ⊢
    cases fuel with
    | zero => cases hfuel
    | succ fuel =>
      rw [scanMembers_member h (by omega) (ends_cons (.inr (.inr rfl)) rest)]
      rfl
  | @cons bs' m' bss ms hx _ ih =>
    rw [joined_cons_cons, List.length_append, List.length_cons] at hfuel
    cases fuel with
    | zero => cases hfuel
    | succ fuel =>
      rw [joined_cons_cons, List.append_assoc, List.cons_append,
        scanMembers_member h (by omega) (ends_cons (.inl rfl) _)]
      change (scanMembers fuel _).map _ = _
      rw [ih hx (by omega)]
      rfl

/-- An object is read as its tree. -/
theorem scans_object {bss : List Bytes} {ms : List (Bytes × Tree)}
    (hs : List.Forall₂ ScansMember bss ms) :
    Scans (0x7B :: (joined bss ++ [0x7D])) (.object ms) := by
  refine scans_of_fuel (by decide) (by decide) fun fuel rest _ hfuel => ?_
  rw [List.append_assoc, List.singleton_append]
  cases hs with
  | nil => rfl
  | @cons bs m bss ms hx hs =>
    obtain ⟨key, value, hbytes, -⟩ := id hx
    have hscan : scanValue (fuel + 1) (0x7B :: (joined (bs :: bss) ++ 0x7D :: rest)) =
        (scanMembers fuel (joined (bs :: bss) ++ 0x7D :: rest)).map
          fun p => (Tree.object p.1, p.2) := by
      rw [joined, hbytes, memberBytes, encode_quote]
      rfl
    rw [List.length_append] at hfuel
    rw [hscan, scanMembers_joined hx hs hfuel]
    rfl

/-! ### Texts -/

private theorem encode_commas (ss : List String) :
    Utf8.encode (String.join (ss.map ("," ++ ·))) = (ss.map Utf8.encode).flatMap (0x2C :: ·) := by
  induction ss with
  | nil => rfl
  | cons s ss ih =>
    rw [List.map_cons, String.join_cons, Utf8.encode_append, Utf8.encode_append, ih]
    rfl

/-- Joined texts have commas between them. -/
theorem encode_join (ss : List String) :
    Utf8.encode (Text.join "," ss) = joined (ss.map Utf8.encode) := by
  cases ss with
  | nil => rfl
  | cons s ss =>
    rw [Text.join_cons, Utf8.encode_append, encode_commas]
    rfl

/-- The items of an array are printed one by one. -/
theorem renderItems_eq (items : List Json) : renderItems items = items.map render := by
  induction items with
  | nil => rfl
  | cons v items ih => rw [renderItems, ih, List.map_cons]

/-- The members of an object are printed one by one, each after its quoted key and a colon. -/
theorem renderMembers_eq (members : List (String × Json)) :
    renderMembers members = members.map fun m => quote m.1 ++ ":" ++ render m.2 := by
  induction members with
  | nil => rfl
  | cons m members ih => rw [renderMembers, ih, List.map_cons]

/-- The text of an array. -/
theorem encode_render_array (items : List Json) :
    Utf8.encode (render (.array items)) =
      0x5B :: (joined (items.map fun v => Utf8.encode (render v)) ++ [0x5D]) := by
  rw [render, Utf8.encode_append, Utf8.encode_append, encode_join, renderItems_eq, List.map_map]
  rfl

/-- The text of an object. -/
theorem encode_render_object (members : List (String × Json)) :
    Utf8.encode (render (.object members)) =
      0x7B :: (joined (members.map fun m => memberBytes m.1 (Utf8.encode (render m.2))) ++
        [0x7D]) := by
  have hmember : (Utf8.encode ∘ fun m : String × Json => quote m.1 ++ ":" ++ render m.2) =
      fun m => memberBytes m.1 (Utf8.encode (render m.2)) := by
    funext m
    rw [Function.comp_apply, Utf8.encode_append, Utf8.encode_append, List.append_assoc]
    rfl
  rw [render, Utf8.encode_append, Utf8.encode_append, encode_join, renderMembers_eq, List.map_map,
    hmember]
  rfl

/-- The text of an object is read member by member. -/
theorem scans_render_object {members : List (String × Json)} {ms : List (String × Tree)}
    (h : List.Forall₂ (fun e m => e.1 = m.1 ∧ Scans (Utf8.encode (render e.2)) m.2) members ms) :
    Scans (Utf8.encode (render (.object members))) (.object (ms.map fun m => (raw m.1, m.2))) := by
  rw [encode_render_object]
  refine scans_object (List.forall₂_map_left_iff.mpr (List.forall₂_map_right_iff.mpr ?_))
  refine h.imp fun e m hm => ⟨e.1, _, rfl, ?_, hm.2⟩
  rw [hm.1]

end FlowConsole.Json
