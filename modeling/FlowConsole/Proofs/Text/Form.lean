import FlowConsole.Proofs.Text.Percent
import Mathlib.Data.List.Basic

/-!
# Form encoding read back

Names and values may be any texts: what is written in form encoding is read back as it was
(`readForm_renderForm`), since the signs between parameters, and between names and values, are
always escaped inside them.
-/

namespace FlowConsole.Percent

open Utf8 (Bytes)

/-! ### Encoded characters -/

private theorem escapes_encodeByte (bs : Bytes) : Escapes (bs.flatMap encodeByte) bs := by
  induction bs with
  | nil => exact .nil
  | cons b bs ih => exact .byte List.mem_cons_self List.mem_cons_self ih

private theorem Escapes.isFormSafe {raw : List Char} {bs : Bytes} (h : Escapes raw bs) :
    ∀ c ∈ raw, c = '%' ∨ isFormSafe c = true := by
  have hsafe : ∀ n < 16, Percent.isFormSafe (hexDigit n) ∧
      Percent.isFormSafe (hexDigit n).toLower := by
    decide +kernel
  have hdigits : ∀ n < 16, ∀ d ∈ [hexDigit n, (hexDigit n).toLower],
      Percent.isFormSafe d = true := fun n hn => by
    simpa using hsafe n hn
  induction h with
  | nil => exact List.forall_mem_nil _
  | @byte b high low raw bs hhigh hlow _ ih =>
    have hb := b.toNat_lt
    refine List.forall_mem_cons.mpr ⟨.inl rfl, List.forall_mem_cons.mpr ⟨.inr ?_,
      List.forall_mem_cons.mpr ⟨.inr ?_, ih⟩⟩⟩
    · exact hdigits _ (by omega) high hhigh
    · exact hdigits _ (by omega) low hlow

/-- Encoded text is made of safe characters, plus signs and escapes. -/
theorem isFormSafe_of_mem_encodeForm {cs : List Char} {c : Char} (h : c ∈ encodeForm cs) :
    c = '+' ∨ c = '%' ∨ isFormSafe c = true := by
  obtain ⟨d, -, hc⟩ := List.mem_flatMap.mp h
  rw [encodeChar] at hc
  split_ifs at hc with hspace hreserved
  · exact .inl (List.mem_singleton.mp hc)
  · exact .inr ((escapes_encodeByte _).isFormSafe c hc)
  · rw [List.mem_singleton.mp hc]
    exact .inr (.inr (by simpa using hreserved))

/-- A sign that is not safe does not occur in encoded text. -/
theorem not_mem_encodeForm {c : Char} (hplus : c ≠ '+') (hpercent : c ≠ '%')
    (hsafe : isFormSafe c = false) (cs : List Char) : c ∉ encodeForm cs := by
  intro h
  rcases isFormSafe_of_mem_encodeForm h with h | h | h
  · exact hplus h
  · exact hpercent h
  · rw [hsafe] at h
    cases h

/-! ### Names and values -/

/-- The encoded character once plus signs are spaces. -/
private def spacedChar (c : Char) : List Char :=
  if c = ' ' then [' '] else encodeChar (fun d => !isFormSafe d) c

private theorem spaced_encodeForm (cs : List Char) :
    (encodeForm cs).map (fun c => if c = '+' then ' ' else c) = cs.flatMap spacedChar := by
  rw [encodeForm, List.map_flatMap]
  refine List.flatMap_congr fun c _ => ?_
  rw [spacedChar]
  split_ifs with hspace
  · rfl
  · -- neither escapes nor safe characters hold a plus sign
    have hplus : ∀ d ∈ encodeChar (fun d => !isFormSafe d) c, d ≠ '+' := by
      rw [encodeChar]
      split_ifs with hreserved
      · intro d hd hplus
        exact (escapes_encodeByte _).plus_not_mem (hplus ▸ hd)
      · rw [List.forall_mem_singleton]
        rintro rfl
        exact hreserved rfl
    exact List.map_congr_left (fun d hd => if_neg (hplus d hd)) |>.trans (List.map_id _)

private theorem decode_spacedChar (c : Char) (rest : Bytes) :
    decode ((spacedChar c).flatMap String.utf8EncodeChar ++ rest) =
      String.utf8EncodeChar c ++ decode rest := by
  rw [spacedChar, encodeChar]
  split_ifs with hspace hreserved
  · rw [List.flatMap_singleton, hspace]
    exact decode_append_of_not_mem (percent_not_mem (c := ' ') (by decide)) rest
  · exact decode_escapes (escapes_encodeByte _) rest
  · rw [List.flatMap_singleton]
    refine decode_append_of_not_mem (percent_not_mem ?_) rest
    rintro rfl
    exact hreserved rfl

/-- A name or a value is read back. -/
theorem decodeForm_encodeForm (cs : List Char) : decodeForm (encodeForm cs) = String.ofList cs := by
  have hdecode : decode ((cs.flatMap spacedChar).flatMap String.utf8EncodeChar) =
      cs.flatMap String.utf8EncodeChar := by
    induction cs with
    | nil => rfl
    | cons c cs ih =>
      rw [List.flatMap_cons, List.flatMap_append, decode_spacedChar, ih, List.flatMap_cons]
  have htext : (encodeForm cs).map (fun c => if c = '+' then ' ' else c) = cs.flatMap spacedChar :=
    spaced_encodeForm cs
  rw [decodeForm, htext, Utf8.encode, String.toList_ofList, hdecode]
  have hencode : cs.flatMap String.utf8EncodeChar = Utf8.encode (String.ofList cs) := by
    rw [Utf8.encode, String.toList_ofList]
  rw [hencode, Utf8.decodeTolerant_encode]

/-! ### Parameters -/

/-- Joined parameters are cut where they were joined. -/
theorem cut_joinPieces {params : List (List Char × List Char)}
    (h : ∀ p ∈ params, '=' ∉ p.1 ∧ '&' ∉ p.1 ∧ '&' ∉ p.2) :
    ((Text.pieces '&' (Text.joinPieces '&' (params.map fun p => p.1 ++ '=' :: p.2))).filter
      (!·.isEmpty)).map (Text.cutOrAll '=') = params := by
  have hamp : ∀ piece ∈ params.map fun p => p.1 ++ '=' :: p.2, '&' ∉ piece := by
    intro piece hpiece
    obtain ⟨p, hp, rfl⟩ := List.mem_map.mp hpiece
    obtain ⟨-, hname, hvalue⟩ := h p hp
    simp [hname, hvalue]
  have hpieces : (Text.pieces '&' (Text.joinPieces '&' (params.map fun p =>
      p.1 ++ '=' :: p.2))).filter (!·.isEmpty) = params.map fun p => p.1 ++ '=' :: p.2 := by
    cases params with
    | nil => rfl
    | cons p params =>
      rw [Text.pieces_joinPieces (by simp) hamp, List.filter_eq_self]
      intro piece hpiece
      obtain ⟨q, -, rfl⟩ := List.mem_map.mp hpiece
      simp
  rw [hpieces, List.map_map]
  refine (List.map_congr_left fun p hp => ?_).trans (List.map_id params)
  rw [Function.comp_apply, Text.cutOrAll, Text.cut?_append (h p hp).1]
  rfl

/-- Parameters in form encoding are read back. -/
theorem readForm_renderForm (params : List (List Char × List Char)) :
    readForm (renderForm params) =
      params.map fun p => (String.ofList p.1, String.ofList p.2) := by
  have hsigns : ∀ p ∈ params.map fun p => (encodeForm p.1, encodeForm p.2),
      '=' ∉ p.1 ∧ '&' ∉ p.1 ∧ '&' ∉ p.2 := by
    intro p hp
    obtain ⟨q, -, rfl⟩ := List.mem_map.mp hp
    have hamp := not_mem_encodeForm (c := '&') (by decide) (by decide) rfl
    exact ⟨not_mem_encodeForm (by decide) (by decide) rfl q.1, hamp q.1, hamp q.2⟩
  have hcut := cut_joinPieces hsigns
  rw [List.map_map] at hcut
  have hread : readForm (renderForm params) =
      (((Text.pieces '&' (renderForm params)).filter (!·.isEmpty)).map (Text.cutOrAll '=')).map
        fun p => (decodeForm p.1, decodeForm p.2) := by
    rw [List.map_map]
    rfl
  rw [hread, renderForm]
  exact (congrArg _ hcut).trans (by simp [decodeForm_encodeForm])

end FlowConsole.Percent
