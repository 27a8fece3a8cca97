import FlowConsole.Proofs.Dictionary
import FlowConsole.Proofs.Json.Scanning
import FlowConsole.Proofs.Outcome

/-!
# Values in JSON texts

A value that is printed is read as a tree with this value (`exists_scans`), if it is nested no
deeper than there is room, the members of its objects are in order, and its numbers read back.
Whatever is read is nested and ordered so (`within_of_value?`).
-/

namespace FlowConsole.Json

open Utf8 (Bytes)

/-- A value with fewer than `room` containers inside one another, if there is any container; the
members of its objects are in order, and its numbers have the property. -/
inductive Within (p : Number → Prop) : Nat → Json → Prop
  | null (room : Nat) : Within p room .null
  | bool (room : Nat) (b : Bool) : Within p room (.bool b)
  | number (room : Nat) {n : Number} (h : p n) : Within p room (.number n)
  | string (room : Nat) (s : String) : Within p room (.string s)
  | array {room : Nat} {items : List Json} (hroom : 0 < room)
    (h : ∀ v ∈ items, Within p room v) : Within p (room + 1) (.array items)
  | object {room : Nat} {members : List (String × Json)} (hroom : 0 < room)
    (hordered : Dictionary.Ordered members) (h : ∀ m ∈ members, Within p room m.2) :
    Within p (room + 1) (.object members)

/-! ### Printed values -/

/-- The items of an array have their values one by one. -/
theorem values?_eq_some {room : Nat} {ts : List Tree} {vs : List Json} :
    Tree.values? room ts = some vs ↔ List.Forall₂ (fun t v => t.value? room = some v) ts vs := by
  suffices h : Tree.values? room ts = ts.mapM (Tree.value? room) by rw [h, Outcome.mapM_eq_some]
  induction ts with
  | nil => rfl
  | cons t ts ih =>
    rw [Tree.values?, List.mapM_cons, ih]
    cases Tree.value? room t <;> cases ts.mapM (Tree.value? room) <;> rfl

/-- The members of an object have their keys and values one by one. -/
theorem entries?_eq_some {room : Nat} {ms : List (Bytes × Tree)} {es : List (String × Json)} :
    Tree.entries? room ms = some es ↔
      List.Forall₂ (fun m e => textOf? m.1 = some e.1 ∧ m.2.value? room = some e.2) ms es := by
  let entry (m : Bytes × Tree) : Option (String × Json) :=
    (textOf? m.1).bind fun k => (m.2.value? room).map (k, ·)
  have hentry (m : Bytes × Tree) (e : String × Json) :
      entry m = some e ↔ textOf? m.1 = some e.1 ∧ m.2.value? room = some e.2 := by
    simp [entry, Option.bind_eq_some_iff, Option.map_eq_some_iff, Prod.ext_iff]
  have hall : Tree.entries? room ms = ms.mapM entry := by
    induction ms with
    | nil => rfl
    | cons m ms ih =>
      rw [Tree.entries?, List.mapM_cons, ih]
      dsimp only [entry]
      cases textOf? m.1 <;> cases m.2.value? room <;> cases ms.mapM entry <;> rfl
  rw [hall, Outcome.mapM_eq_some]
  simp only [hentry]

/-- A printed value is read as a tree with this value. -/
theorem exists_scans {room : Nat} {v : Json} (h : v.Within Number.ReadsBack room) :
    ∃ t, Scans (Utf8.encode (render v)) t ∧ t.value? room = some v := by
  -- A container takes one level of the room; what it holds is read with the room that is left.
  induction h with
  | null room =>
    have hbytes : Utf8.encode (render .null) = [0x6E, 0x75, 0x6C, 0x6C] := by decide
    rw [hbytes]
    exact ⟨.null, scans_of_fuel (by decide) (by decide) fun _ _ _ _ => rfl, rfl⟩
  | bool room b =>
    refine ⟨.bool b, ?_, rfl⟩
    cases b with
    | true =>
      have hbytes : Utf8.encode (render (.bool true)) = [0x74, 0x72, 0x75, 0x65] := by decide
      rw [hbytes]
      exact scans_of_fuel (by decide) (by decide) fun _ _ _ _ => rfl
    | false =>
      have hbytes : Utf8.encode (render (.bool false)) = [0x66, 0x61, 0x6C, 0x73, 0x65] := by decide
      rw [hbytes]
      exact scans_of_fuel (by decide) (by decide) fun _ _ _ _ => rfl
  | number room h =>
    obtain ⟨m, hvalue, hscan⟩ := exists_scans_number h
    refine ⟨.number m, hscan, ?_⟩
    rw [Tree.value?, hvalue]
    rfl
  | string room s =>
    refine ⟨.string (raw s), scans_string s, ?_⟩
    rw [Tree.value?, textOf?_raw]
    rfl
  | @array room items hroom _ ih =>
    obtain ⟨ts, hts⟩ := Outcome.exists_forall₂ ih
    have hvalues := values?_eq_some.mpr (hts.imp fun _ _ h => h.2).flip
    refine ⟨.array ts, ?_, ?_⟩
    · rw [encode_render_array]
      exact scans_array (List.forall₂_map_left_iff.mpr (hts.imp fun _ _ h => h.1))
    · rw [Tree.value?, if_neg (by omega), Nat.add_sub_cancel, hvalues]
      rfl
  | @object room members hroom hordered _ ih =>
    have hmember : ∀ e ∈ members, ∃ m : String × Tree,
        (e.1 = m.1 ∧ Scans (Utf8.encode (render e.2)) m.2) ∧ m.2.value? room = some e.2 := by
      intro e he
      obtain ⟨t, hscan, hvalue⟩ := ih e he
      exact ⟨(e.1, t), ⟨rfl, hscan⟩, hvalue⟩
    obtain ⟨ms, hms⟩ := Outcome.exists_forall₂ hmember
    have hentries : Tree.entries? room (ms.map fun m => (raw m.1, m.2)) = some members := by
      refine entries?_eq_some.mpr (List.forall₂_map_left_iff.mpr (hms.imp ?_).flip)
      rintro e m ⟨⟨hkey, -⟩, hvalue⟩
      exact ⟨hkey ▸ textOf?_raw m.1, hvalue⟩
    refine ⟨_, scans_render_object (hms.imp fun _ _ h => h.1), ?_⟩
    rw [Tree.value?, if_neg (by omega), Nat.add_sub_cancel, hentries, Option.map_some,
      hordered.ofEntries_eq]

/-- Bytes that are read as a tree are the text of it. -/
theorem Scans.parse? {bs : Bytes} {t : Tree} (h : Scans bs t) : Tree.parse? bs = some t := by
  have hscan := h.scan (bs.length + 1) [] nofun (Nat.lt_succ_self _)
  rw [List.append_nil] at hscan
  rw [Tree.parse?, hscan]
  rfl

/-! ### Trees -/

mutual

/-- The value of a tree is nested no deeper than there is room, with its objects in order. -/
theorem within_of_value? {room : Nat} {v : Json} :
    ∀ {t : Tree}, t.value? room = some v → v.Within (fun _ => True) room
  | .null, h => by
    cases h
    exact .null room
  | .bool b, h => by
    cases h
    exact .bool room b
  | .number n, h => by
    obtain ⟨n, -, rfl⟩ := Option.map_eq_some_iff.mp h
    exact .number room trivial
  | .string bs, h => by
    obtain ⟨s, -, rfl⟩ := Option.map_eq_some_iff.mp h
    exact .string room s
  | .array items, h => by
    rw [Tree.value?] at h
    split at h
    · cases h
    · next hroom =>
      obtain ⟨less, rfl⟩ : ∃ less, room = less + 1 := Nat.exists_eq_add_of_le' (by omega)
      obtain ⟨vs, hvs, rfl⟩ := Option.map_eq_some_iff.mp h
      exact .array (by omega) (within_of_values? hvs)
  | .object members, h => by
    rw [Tree.value?] at h
    split at h
    · cases h
    · next hroom =>
      obtain ⟨less, rfl⟩ : ∃ less, room = less + 1 := Nat.exists_eq_add_of_le' (by omega)
      obtain ⟨es, hes, rfl⟩ := Option.map_eq_some_iff.mp h
      refine .object (by omega) (Dictionary.ordered_ofEntries es) fun e he => ?_
      exact within_of_entries? hes e (Dictionary.mem_of_mem_ofEntries he)

/-- So are the values of the items of an array. -/
theorem within_of_values? {room : Nat} {vs : List Json} :
    ∀ {ts : List Tree}, Tree.values? room ts = some vs → ∀ v ∈ vs, v.Within (fun _ => True) room
  | [], h => by
    cases h
    exact List.forall_mem_nil _
  | t :: ts, h => by
    cases values?_eq_some.mp h with
    | cons hv hvs =>
      exact List.forall_mem_cons.mpr
        ⟨within_of_value? hv, within_of_values? (values?_eq_some.mpr hvs)⟩

/-- So are the values of the members of an object. -/
theorem within_of_entries? {room : Nat} {es : List (String × Json)} :
    ∀ {ms : List (Bytes × Tree)}, Tree.entries? room ms = some es →
      ∀ e ∈ es, e.2.Within (fun _ => True) room
  | [], h => by
    cases h
    exact List.forall_mem_nil _
  | (key, t) :: ms, h => by
    cases entries?_eq_some.mp h with
    | cons he hes =>
      exact List.forall_mem_cons.mpr
        ⟨within_of_value? he.2, within_of_entries? (entries?_eq_some.mpr hes)⟩

end

end FlowConsole.Json
