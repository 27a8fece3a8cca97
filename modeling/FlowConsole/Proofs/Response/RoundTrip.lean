import FlowConsole.Proofs.Json.Values
import FlowConsole.Proofs.Response.Decoding

/-!
# Streams that are written and read

Streams are written to the body of an answer (`streamsBody`). What is written for them stands for
them (`isStreams_toJson`) and can be read again, so they are read back from the body as they are,
whatever their labels, times and lines (`decode_streamsBody`). Streams that are read from any other
body are of this kind, too (`IsStreams.sound`).
-/

open FlowConsole.Integer (FitsInt64)

namespace FlowConsole.Response

open Json (Number Tree Scans)
open Utf8 (Bytes)

/-- The labels of a stream are in order, and its times fit in 64 bits. -/
structure Stream.Sound (s : Stream) : Prop where
  labels : s.labels.Ordered
  nanos : ∀ e ∈ s.items, FitsInt64 e.nanos

/-! ### Written streams -/

/-- An entry is written as what stands for it. -/
theorem Entry.isEntry_toJson {e : Entry} (h : FitsInt64 e.nanos) : IsEntry e.toJson e :=
  .pair (Integer.spells_toString e.nanos) h e.line

/-- The members of a stream are in order. -/
theorem Stream.toJson_eq (s : Stream) :
    Labelled.toJson streamLabels Entry.toJson s =
      .object [("stream", .ofTexts s.labels), ("values", .array (s.items.map Entry.toJson))] := by
  have hlt : ¬"values" < "stream" := by decide
  simp [Labelled.toJson, Json.ofEntries, Dictionary.ofEntries, Dictionary.insert, streamLabels, hlt]

/-- Streams are written as what stands for them. -/
theorem isStreams_toJson {ss : List Stream} (h : ∀ s ∈ ss, s.Sound) :
    IsStreams (Result.streams ss).toJson ss := by
  refine ⟨_, rfl, List.forall₂_map_left_iff.mpr (List.forall₂_same.mpr fun s hs => ?_)⟩
  rw [Stream.toJson_eq]
  refine .object rfl rfl (List.forall₂_map_left_iff.mpr (List.forall₂_same.mpr fun e he => ?_))
  exact e.isEntry_toJson ((h s hs).nanos e he)

/-- Labels in order are written so. -/
theorem within_ofTexts {p : Number → Prop} {d : Dictionary String} {room : Nat} :
    (Json.ofTexts d).Within p room ↔ 1 < room ∧ d.Ordered := by
  constructor
  · intro h
    cases h with
    | object hroom hordered _ => exact ⟨Nat.succ_lt_succ hroom, Dictionary.ordered_map.mp hordered⟩
  · rintro ⟨hroom, hordered⟩
    obtain ⟨less, rfl⟩ : ∃ less, room = less + 1 := Nat.exists_eq_add_of_le' (by omega)
    exact .object (by omega) (Dictionary.ordered_map.mpr hordered)
      (List.forall_mem_map.mpr fun e _ => .string less e.2)

private theorem within_pairs {p : Number → Prop} {items : List Json} (room : Nat)
    (h : ∀ v ∈ items, ∃ a b, v = .array [.string a, .string b]) :
    (Json.array items).Within p (room + 3) := by
  refine .array (by omega) fun v hv => ?_
  obtain ⟨a, b, rfl⟩ := h v hv
  refine .array (by omega) (List.forall_mem_cons.mpr ⟨.string _ a, ?_⟩)
  exact List.forall_mem_singleton.mpr (.string _ b)

/-- What is written for streams can be read again. -/
theorem within_toJson {p : Number → Prop} {ss : List Stream} (h : ∀ s ∈ ss, s.Sound) (room : Nat) :
    (Result.streams ss).toJson.Within p (room + 5) := by
  refine .array (by omega) (List.forall_mem_map.mpr fun s hs => ?_)
  have hlabels : (Json.ofTexts s.labels).Within p (room + 3) :=
    within_ofTexts.mpr ⟨by omega, (h s hs).labels⟩
  have hitems : (Json.array (s.items.map Entry.toJson)).Within p (room + 3) :=
    within_pairs room (List.forall_mem_map.mpr fun e _ => ⟨_, e.line, rfl⟩)
  have hordered : Dictionary.Ordered [("stream", Json.ofTexts s.labels),
      ("values", .array (s.items.map Entry.toJson))] := by
    have hlt : "stream" < "values" := by decide
    exact List.pairwise_pair.mpr hlt
  rw [Stream.toJson_eq]
  exact .object (by omega) hordered
    (List.forall_mem_cons.mpr ⟨hlabels, List.forall_mem_singleton.mpr hitems⟩)

/-! ### Read streams -/

/-- Streams that are read are sound. -/
theorem IsStreams.sound {v : Json} {ss : List Stream} (h : IsStreams v ss) {p : Number → Prop}
    {room : Nat} (hv : v.Within p room) : ∀ s ∈ ss, s.Sound := by
  obtain ⟨vs, rfl, hall⟩ := h
  have hnanos {values : List Json} {entries : List Entry}
      (h : List.Forall₂ IsEntry values entries) : ∀ e ∈ entries, FitsInt64 e.nanos := by
    intro e he
    obtain ⟨value, -, hvalue⟩ := Outcome.exists_of_forall₂ h.flip he
    cases hvalue with
    | pair _ hfits _ => exact hfits
  intro s hs
  obtain ⟨v, hmem, hstream⟩ := Outcome.exists_of_forall₂ hall.flip hs
  cases hv with
  | array _ hvs =>
    have hv := hvs v hmem
    cases hstream with
    | object hlabels _ hentries =>
      cases hv with
      | object _ _ hmembers =>
        have hwithin := hmembers _ (Dictionary.mem_of_find? hlabels)
        exact ⟨(within_ofTexts.mp hwithin).2, hnanos hentries⟩
    | array hentries =>
      cases hv with
      | array _ hitems =>
        have hwithin := hitems _ List.mem_cons_self
        exact ⟨(within_ofTexts.mp hwithin).2, hnanos hentries⟩

private theorem within_of_valueOrNull? {o : Option Tree} {v : Json}
    (h : valueOrNull? o = some v) : v.Within (fun _ => True) (Json.maxDepth - 2) := by
  cases o with
  | none =>
    cases h
    exact .null _
  | some t => exact Json.within_of_value? h

/-- The result of an envelope is nested no deeper than the envelope leaves room for. -/
theorem Encloses.within {body : Bytes} {e : Envelope} (h : Encloses body e) :
    e.result.Within (fun _ => True) (Json.maxDepth - 2) := by
  obtain ⟨t, -, ht⟩ := Option.bind_eq_some_iff.mp h
  obtain ⟨outer, -, ht⟩ := Option.bind_eq_some_iff.mp ht
  split at ht
  · obtain ⟨inner, -, ht⟩ := Option.bind_eq_some_iff.mp ht
    split at ht
    · obtain ⟨_, -, ht⟩ := Option.bind_eq_some_iff.mp ht
      obtain ⟨_, -, ht⟩ := Option.bind_eq_some_iff.mp ht
      obtain ⟨result, hresult, ht⟩ := Option.bind_eq_some_iff.mp ht
      obtain ⟨_, -, ht⟩ := Option.bind_eq_some_iff.mp ht
      cases ht
      exact within_of_valueOrNull? hresult
    · cases ht
  · cases ht

/-! ### Bodies -/

/-- The body of an answer that tells of success. -/
def successBody (kind : Kind) (result stats : Json) : Bytes :=
  Utf8.encode (Json.render (.ofEntries [("status", .string "success"),
    ("data", .ofEntries [("resultType", .string kind.name), ("result", result),
      ("stats", stats)])]))

/-- The body that streams are written to. -/
def streamsBody (ss : List Stream) (stats : Json) : Bytes :=
  successBody .streams (Result.streams ss).toJson stats

/-- The value can stand in a body: the envelope leaves room for its containers, the members of its
objects are in order, and its numbers read back. -/
def Enclosable (v : Json) : Prop := v.Within Number.ReadsBack (Json.maxDepth - 2)

/-- The only member of the name, if there is one. -/
private def memberNamed (ms : List (String × Tree)) (name : String) : Option (Option Tree) :=
  match ms.filter fun m => m.1 == name with
  | [] => some none
  | [m] => some (some m.2)
  | _ => none

private theorem fields_object (names : List String) (ms : List (String × Tree)) :
    fields names (.object (ms.map fun m => (Json.raw m.1, m.2))) =
      names.mapM (memberNamed ms) := by
  have hkeys : (ms.map fun m => (Json.raw m.1, m.2)).mapM
      (fun m => (Json.textOf? m.1).map fun key => (key, m.2)) = some ms := by
    refine Outcome.mapM_eq_some.mpr (List.forall₂_map_left_iff.mpr (List.forall₂_same.mpr ?_))
    intro m _
    rw [Json.textOf?_raw]
    rfl
  rw [fields, hkeys]
  rfl

private theorem successBody_eq (kind : Kind) (result stats : Json) :
    successBody kind result stats = Utf8.encode (Json.render (.object
      [("data", .object [("result", result), ("resultType", .string kind.name), ("stats", stats)]),
        ("status", .string "success")])) := by
  have hdata : "data" < "status" := by decide
  have hresult : "result" < "resultType" := by decide
  have hstats : ¬"stats" < "result" := by decide
  have hstats' : ¬"stats" < "resultType" := by decide
  simp [successBody, Json.ofEntries, Dictionary.ofEntries, Dictionary.insert, hdata, hresult,
    hstats, hstats']

/-- The envelope of the body of an answer. -/
theorem encloses_successBody (kind : Kind) {result stats : Json} (hresult : Enclosable result)
    (hstats : Enclosable stats) :
    Encloses (successBody kind result stats) ⟨"success", kind.name, result, stats⟩ := by
  obtain ⟨resultTree, hresultScan, hresultValue⟩ := Json.exists_scans hresult
  obtain ⟨statsTree, hstatsScan, hstatsValue⟩ := Json.exists_scans hstats
  let inner : List (String × Tree) := [("result", resultTree),
    ("resultType", .string (Json.raw kind.name)), ("stats", statsTree)]
  let data : Tree := .object (inner.map fun m => (Json.raw m.1, m.2))
  let outer : List (String × Tree) := [("data", data), ("status", .string (Json.raw "success"))]
  have hdata : Scans (Utf8.encode (Json.render (.object [("result", result),
      ("resultType", .string kind.name), ("stats", stats)]))) data :=
    Json.scans_render_object (.cons ⟨rfl, hresultScan⟩ (.cons ⟨rfl, Json.scans_string _⟩
      (.cons ⟨rfl, hstatsScan⟩ .nil)))
  have hbody : Scans (successBody kind result stats)
      (.object (outer.map fun m => (Json.raw m.1, m.2))) := by
    rw [successBody_eq]
    exact Json.scans_render_object (.cons ⟨rfl, hdata⟩ (.cons ⟨rfl, Json.scans_string _⟩ .nil))
  have houterFields : fields ["status", "data"]
      (.object (outer.map fun m => (Json.raw m.1, m.2))) =
        some [some (.string (Json.raw "success")), some data] := by
    rw [fields_object]
    rfl
  have hinnerFields : fields ["resultType", "result", "stats"] data =
      some [some (.string (Json.raw kind.name)), some resultTree, some statsTree] := by
    rw [fields_object]
    rfl
  rw [Encloses, hbody.parse?, Option.bind_some, Envelope.ofTree?, houterFields]
  simp only [Option.bind_eq_bind, Option.bind_some, hinnerFields, textOrEmpty?, text?,
    Json.textOf?_raw, valueOrNull?, hresultValue, hstatsValue]
  rfl

/-! ### Round trips -/

/-- What is written for streams is decoded to them. -/
theorem decode_streamsBody {ss : List Stream} {stats : Json} (hss : ∀ s ∈ ss, s.Sound)
    (hstats : Enclosable stats) :
    Answer.decode (streamsBody ss stats) = .ok ⟨.streams ss, stats⟩ := by
  have hbody := encloses_successBody .streams (within_toJson hss 121) hstats
  exact decode_streams_iff.mpr ⟨_, hbody, .inr rfl, ⟨rfl, isStreams_toJson hss⟩, rfl⟩

/-- A body whose envelope tells of success, and whose result is what streams are written as, is
decoded to these streams. So is the body that they are written to. Whatever streams are decoded,
they are decoded again from the body that they are written to. And an item that is no pair of texts,
the first of which spells an integer of 64 bits, spoils a body of streams, wherever it is held. -/
theorem streams_round_trip :
    (∀ (ss : List Stream) (body : Bytes) (e : Envelope), (∀ s ∈ ss, s.Sound) → Encloses body e →
      e.Succeeds → e.kind = Kind.streams.name → e.result = (Result.streams ss).toJson →
      Answer.decode body = .ok ⟨.streams ss, e.stats⟩) ∧
    (∀ (ss : List Stream) (stats : Json), (∀ s ∈ ss, s.Sound) → Enclosable stats →
      Answer.decode (streamsBody ss stats) = .ok ⟨.streams ss, stats⟩) ∧
    (∀ (body : Bytes) (ss : List Stream) (stats : Json),
      Answer.decode body = .ok ⟨.streams ss, stats⟩ →
        (∀ s ∈ ss, s.Sound) ∧ ∀ stats' : Json, Enclosable stats' →
          Answer.decode (streamsBody ss stats') = .ok ⟨.streams ss, stats'⟩) ∧
    ∀ (body : Bytes) (e : Envelope) (item : Json), Encloses body e →
      e.kind = Kind.streams.name → HoldsItem e.result item →
      (∀ (time line : String) (n : Int), item = .array [.string time, .string line] →
        Integer.Spells time.toList n → ¬FitsInt64 n) →
      ∃ err, Answer.decode body = .error err := by
  refine ⟨?_, fun ss stats => decode_streamsBody, ?_, ?_⟩
  · intro ss body e hss he hsucceeds hkind hresult
    exact decode_streams_iff.mpr ⟨e, he, hsucceeds, ⟨hkind, hresult ▸ isStreams_toJson hss⟩, rfl⟩
  · intro body ss stats h
    obtain ⟨e, he, -, ⟨-, hstreams⟩, -⟩ := decode_streams_iff.mp h
    have hss := hstreams.sound he.within
    exact ⟨hss, fun stats' hstats' => decode_streamsBody hss hstats'⟩
  · intro body e item he hkind hitem htime
    refine exists_decode_eq_error he hkind hitem ?_
    rintro ⟨entry, hentry⟩
    cases hentry with
    | @pair time n h hfits line => exact htime time line n rfl h hfits

/-- The earliest time and an escaped label are read back. A time with a sign and zeros in front, in
an array of labels and items, is read as what is written without them. And a time with an exponent
spoils the other entries, too. -/
theorem streams_round_trip_signedTime :
    let s : Stream := ⟨[("app", "a\"b")], [⟨-9223372036854775808, "\n"⟩, ⟨42, ""⟩]⟩
    let plain : Stream := ⟨[("app", "x")], [⟨7, "{}"⟩]⟩
    let signed : Json := .array [.array [.ofTexts [("app", "x")],
      .array [.array [.string "+007", .string "{}"]]]]
    let broken : Json := .array [.array [.ofTexts [],
      .array [.array [.string "42", .string ""], .array [.string "1e3", .string ""]]]]
    streamsBody [] .null = Utf8.encode ("\x7b\"data\":\x7b\"result\":[]," ++
        "\"resultType\":\"streams\",\"stats\":null\x7d,\"status\":\"success\"\x7d") ∧
      Answer.decode (streamsBody [] .null) = .ok ⟨.streams [], .null⟩ ∧
      Answer.decode (streamsBody [s] (.ofNat 2)) = .ok ⟨.streams [s], .ofNat 2⟩ ∧
      Answer.decode (successBody .streams signed .null) = .ok ⟨.streams [plain], .null⟩ ∧
      Answer.decode (streamsBody [plain] .null) = .ok ⟨.streams [plain], .null⟩ ∧
      ∃ err, Answer.decode (successBody .streams broken .null) = .error err := by
  intro s plain signed broken
  have hsound : ∀ t ∈ [s], t.Sound :=
    List.forall_mem_singleton.mpr ⟨List.pairwise_singleton _ _, by decide⟩
  have hstats : Enclosable (.ofNat 2) := .number _ (Json.readsBack_natural (by decide))
  have henclosable {labels : Dictionary String} {items : List Json} (hlabels : labels.Ordered)
      (hitems : ∀ v ∈ items, ∃ a b, v = .array [.string a, .string b]) :
      Enclosable (.array [.array [.ofTexts labels, .array items]]) := by
    refine .array (by decide) (List.forall_mem_singleton.mpr (.array (by decide) ?_))
    exact List.forall_mem_cons.mpr ⟨within_ofTexts.mpr ⟨by decide, hlabels⟩,
      List.forall_mem_singleton.mpr (within_pairs 121 hitems)⟩
  have hsigned : Enclosable signed :=
    henclosable (List.pairwise_singleton _ _) (List.forall_mem_singleton.mpr ⟨_, _, rfl⟩)
  have hbroken : Enclosable broken :=
    henclosable List.Pairwise.nil (List.forall_mem_cons.mpr ⟨⟨_, _, rfl⟩,
      List.forall_mem_singleton.mpr ⟨_, _, rfl⟩⟩)
  have hseven : Integer.Spells "+007".toList 7 ∧ FitsInt64 7 :=
    Integer.parse_eq_ok.mp (by decide +kernel)
  have hread : Answer.decode (successBody .streams signed .null) =
      .ok ⟨.streams [plain], .null⟩ := by
    refine decode_streams_iff.mpr ⟨_, encloses_successBody .streams hsigned (.null _), .inr rfl,
      ⟨rfl, _, rfl, .cons (.array (.cons ?_ .nil)) .nil⟩, rfl⟩
    exact .pair hseven.1 hseven.2 _
  have htime : ∀ (time line : String) (n : Int),
      Json.array [.string "1e3", .string ""] = .array [.string time, .string line] →
        Integer.Spells time.toList n → ¬FitsInt64 n := by
    rintro time line n ⟨⟩ hspells
    exact absurd (hspells.digit_or_sign (c := 'e') (by decide)) (by decide)
  refine ⟨by decide +kernel, streams_round_trip.2.1 _ _ (List.forall_mem_nil _) (.null _), ?_,
    hread, (streams_round_trip.2.2.1 _ _ _ hread).2 .null (.null _), ?_⟩
  · have hbody := encloses_successBody .streams (within_toJson hsound 121) hstats
    exact streams_round_trip.1 _ _ _ hsound hbody (.inr rfl) rfl rfl
  · exact streams_round_trip.2.2.2 _ _ _ (encloses_successBody .streams hbroken (.null _)) rfl
      (.array List.mem_cons_self (List.mem_cons_of_mem _ List.mem_cons_self)) htime

end FlowConsole.Response
