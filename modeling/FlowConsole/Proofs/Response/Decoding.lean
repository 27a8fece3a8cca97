import FlowConsole.Proofs.Outcome
import FlowConsole.Proofs.Text.Integers
import FlowConsole.Response.Decoding

/-!
# What is decoded

The JSON values that stand for an entry, for labelled items and for streams (`IsEntry`,
`IsLabelled`, `IsStreams`), and that they are decoded to just what they stand for
(`decode_streams_iff`). One item that stands for no entry spoils an answer of streams, wherever it
is held (`exists_decode_eq_error`).
-/

open FlowConsole.Integer (FitsInt64)

namespace FlowConsole.Response

open Utf8 (Bytes)

/-! ### Values -/

/-- The value is an entry: the text of its time, which may have a sign and zeros in front, and its
line. -/
inductive IsEntry : Json → Entry → Prop
  | pair {time : String} {n : Int} (h : Integer.Spells time.toList n) (hfits : FitsInt64 n)
    (line : String) : IsEntry (.array [.string time, .string line]) ⟨n, line⟩

/-- The value is a list of labelled items: an object with a member for the labels and one for the
items, or an array of both. -/
inductive IsLabelled {α : Type} (name : String) (IsItem : Json → α → Prop) :
    Json → Labelled α → Prop
  | object {members : List (String × Json)} {labels : Dictionary String} {values : List Json}
    {items : List α} (hlabels : Dictionary.find? members name = some (.ofTexts labels))
    (hvalues : Dictionary.find? members "values" = some (.array values))
    (h : List.Forall₂ IsItem values items) :
    IsLabelled name IsItem (.object members) ⟨labels, items⟩
  | array {labels : Dictionary String} {values : List Json} {items : List α}
    (h : List.Forall₂ IsItem values items) :
    IsLabelled name IsItem (.array [.ofTexts labels, .array values]) ⟨labels, items⟩

/-- The value is a list of streams. -/
def IsStreams (v : Json) (ss : List Stream) : Prop :=
  ∃ vs, v = .array vs ∧ List.Forall₂ (IsLabelled streamLabels IsEntry) vs ss

/-! ### Steps of decoding -/

/-- What is not there is malformed, and what is there is not. -/
theorem orMalformed_eq_ok {α : Type} {o : Option α} {a : α} :
    orMalformed o = .ok a ↔ o = some a := by
  cases o <;> simp [orMalformed]

/-- Only strings are read as texts. -/
theorem string?_eq_some {v : Json} {s : String} : v.string? = some s ↔ v = .string s := by
  cases v <;> simp [Json.string?]

/-- Only arrays are read as items. -/
theorem items?_eq_some {v : Json} {vs : List Json} : v.items? = some vs ↔ v = .array vs := by
  cases v <;> simp [Json.items?]

/-- Only arrays of two items are read as pairs. -/
theorem pairOf?_eq_some {v a b : Json} : pairOf? v = some (a, b) ↔ v = .array [a, b] := by
  rw [pairOf?.eq_def]
  split
  · simp
  · next hne => exact iff_of_false nofun (hne a b)

/-- Labels are read from an object of texts. -/
theorem labelsOf?_eq_some {v : Json} {labels : Dictionary String} :
    labelsOf? v = some labels ↔ v = .ofTexts labels := by
  cases v with
  | object members =>
    rw [labelsOf?, Outcome.mapM_eq_some, Json.ofTexts, Json.object.injEq]
    have hmember (m : String × Json) (e : String × String) :
        (m.2.string?.map fun v => (m.1, v)) = some e ↔ m = (e.1, .string e.2) := by
      simp only [Option.map_eq_some_iff, string?_eq_some, Prod.ext_iff]
      constructor
      · rintro ⟨s, hs, hk, rfl⟩
        exact ⟨hk, hs⟩
      · rintro ⟨hk, hs⟩
        exact ⟨e.2, hs, hk, rfl⟩
    simp only [hmember]
    rw [← List.forall₂_map_right_iff (f := fun e : String × String => (e.1, Json.string e.2)),
      List.forall₂_eq_eq_eq]
  | _ => exact iff_of_false nofun nofun

/-- An entry is read from just what is one. -/
theorem Entry.ofJson_eq_ok {v : Json} {e : Entry} : Entry.ofJson v = .ok e ↔ IsEntry v e := by
  rw [Entry.ofJson]
  constructor
  · intro h
    obtain ⟨⟨a, b⟩, hpair, hrest⟩ := Outcome.bind_eq_ok.mp h
    obtain ⟨time, htime, hrest⟩ := Outcome.bind_eq_ok.mp hrest
    obtain ⟨line, hline, hrest⟩ := Outcome.bind_eq_ok.mp hrest
    rw [pairOf?_eq_some.mp (orMalformed_eq_ok.mp hpair),
      string?_eq_some.mp (orMalformed_eq_ok.mp htime),
      string?_eq_some.mp (orMalformed_eq_ok.mp hline)]
    split at hrest
    · next n hn =>
      cases hrest
      obtain ⟨hspells, hfits⟩ := Integer.parse_eq_ok.mp hn
      exact .pair hspells hfits line
    · cases hrest
  · intro h
    cases h with
    | @pair time n hspells hfits line =>
      have hparse : Integer.parse time = .ok n := Integer.parse_eq_ok.mpr ⟨hspells, hfits⟩
      refine Outcome.bind_eq_ok.mpr ⟨(.string time, .string line), rfl, ?_⟩
      refine Outcome.bind_eq_ok.mpr ⟨time, rfl, Outcome.bind_eq_ok.mpr ⟨line, rfl, ?_⟩⟩
      rw [hparse]
      rfl

/-- A list is read from an array, item by item. -/
theorem listOf_eq_ok {α : Type} {item : Json → Except Error α} {IsItem : Json → α → Prop}
    (hitem : ∀ v a, item v = .ok a ↔ IsItem v a) {v : Json} {as : List α} :
    listOf item v = .ok as ↔ ∃ vs, v = .array vs ∧ List.Forall₂ IsItem vs as := by
  rw [listOf, Outcome.bind_eq_ok]
  simp only [orMalformed_eq_ok, items?_eq_some, Outcome.mapM_eq_ok, hitem]

/-- Labelled items are read from just what they are. -/
theorem Labelled.ofJson_eq_ok {α : Type} {item : Json → Except Error α} {IsItem : Json → α → Prop}
    (hitem : ∀ v a, item v = .ok a ↔ IsItem v a) {name : String} {v : Json} {g : Labelled α} :
    Labelled.ofJson name item v = .ok g ↔ IsLabelled name IsItem v g := by
  rw [Labelled.ofJson.eq_def]
  constructor
  · intro h
    split at h
    · next members =>
      obtain ⟨labels?, hlabels, hrest⟩ := Outcome.bind_eq_ok.mp h
      obtain ⟨items?, hitems, hrest⟩ := Outcome.bind_eq_ok.mp hrest
      split at hrest
      · next labels items =>
        cases hrest
        obtain ⟨m, hm, hlabels⟩ := Outcome.mapM_option_eq_ok.mp hlabels
        obtain ⟨m', hm', hitems⟩ := Outcome.mapM_option_eq_ok.mp hitems
        obtain rfl := labelsOf?_eq_some.mp (orMalformed_eq_ok.mp hlabels)
        obtain ⟨values, rfl, hvalues⟩ := (listOf_eq_ok hitem).mp hitems
        exact .object hm hm' hvalues
      · cases hrest
    · next first second more =>
      obtain ⟨labels, hlabels, hrest⟩ := Outcome.bind_eq_ok.mp h
      obtain ⟨items, hitems, hrest⟩ := Outcome.bind_eq_ok.mp hrest
      obtain ⟨values, hvalues, hall⟩ := (listOf_eq_ok hitem).mp hitems
      rw [labelsOf?_eq_some.mp (orMalformed_eq_ok.mp hlabels), hvalues]
      split at hrest
      · next hmore =>
        cases hrest
        rw [List.isEmpty_iff.mp hmore]
        exact .array hall
      · cases hrest
    · cases h
  · intro h
    cases h with
    | @object members labels values items hlabels hvalues h =>
      have hlabels : (Dictionary.find? members name).mapM (fun m => orMalformed (labelsOf? m)) =
          .ok (some labels) :=
        Outcome.mapM_option_eq_ok.mpr
          ⟨_, hlabels, orMalformed_eq_ok.mpr (labelsOf?_eq_some.mpr rfl)⟩
      have hitems : (Dictionary.find? members "values").mapM (listOf item) = .ok (some items) :=
        Outcome.mapM_option_eq_ok.mpr ⟨_, hvalues, (listOf_eq_ok hitem).mpr ⟨values, rfl, h⟩⟩
      exact Outcome.bind_eq_ok.mpr ⟨_, hlabels, Outcome.bind_eq_ok.mpr ⟨_, hitems, rfl⟩⟩
    | @array labels values items h =>
      have hlabels : orMalformed (labelsOf? (.ofTexts labels)) = .ok labels :=
        orMalformed_eq_ok.mpr (labelsOf?_eq_some.mpr rfl)
      have hitems : listOf item (.array values) = .ok items :=
        (listOf_eq_ok hitem).mpr ⟨values, rfl, h⟩
      exact Outcome.bind_eq_ok.mpr ⟨_, hlabels, Outcome.bind_eq_ok.mpr ⟨_, hitems, rfl⟩⟩

/-- A result is read as streams exactly if its kind says so and it is these streams. -/
theorem Result.ofJson_eq_streams {kind : String} {v : Json} {ss : List Stream} :
    Result.ofJson kind v = .ok (.streams ss) ↔ kind = Kind.streams.name ∧ IsStreams v ss := by
  have hstream (v : Json) (s : Stream) :
      Labelled.ofJson streamLabels Entry.ofJson v = .ok s ↔
        IsLabelled streamLabels IsEntry v s :=
    Labelled.ofJson_eq_ok fun _ _ => Entry.ofJson_eq_ok
  rw [Result.ofJson]
  split
  · next hkind =>
    rw [and_iff_right hkind, Outcome.map_eq_ok]
    simp only [listOf_eq_ok hstream, Result.streams.injEq, exists_eq_right]
    rfl
  · next hkind =>
    refine iff_of_false (fun h => ?_) fun h => hkind h.1
    split at h
    · obtain ⟨series, -, hseries⟩ := Outcome.map_eq_ok.mp h
      cases hseries
    · cases h

/-! ### Bodies -/

/-- The envelope of the body. -/
def Encloses (body : Bytes) (e : Envelope) : Prop :=
  (Json.Tree.parse? body).bind Envelope.ofTree? = some e

/-- The status tells of success, or there is none. -/
def Envelope.Succeeds (e : Envelope) : Prop := e.status = "" ∨ e.status = "success"

/-- An envelope is decoded exactly if it tells of success and its result is read. -/
theorem Answer.ofEnvelope_eq_ok {e : Envelope} {a : Answer} :
    Answer.ofEnvelope e = .ok a ↔
      e.Succeeds ∧ Result.ofJson e.kind e.result = .ok a.result ∧ e.stats = a.stats := by
  rw [Answer.ofEnvelope]
  split
  · next hfails =>
    exact iff_of_false nofun fun h => h.1.elim hfails.1 hfails.2
  · next hsucceeds =>
    have hstatus : e.Succeeds := by
      by_contra hfails
      exact hsucceeds (not_or.mp hfails)
    rw [and_iff_right hstatus]
    constructor
    · intro h
      obtain ⟨result, hresult, h⟩ := Outcome.bind_eq_ok.mp h
      cases h
      exact ⟨hresult, rfl⟩
    · rintro ⟨hresult, hstats⟩
      refine Outcome.bind_eq_ok.mpr ⟨a.result, hresult, ?_⟩
      rw [hstats]
      rfl

/-- A body is decoded to streams exactly if its envelope tells of success, and of streams, and holds
just these. -/
theorem decode_streams_iff {body : Bytes} {ss : List Stream} {stats : Json} :
    Answer.decode body = .ok ⟨.streams ss, stats⟩ ↔
      ∃ e, Encloses body e ∧ e.Succeeds ∧ (e.kind = Kind.streams.name ∧ IsStreams e.result ss) ∧
        e.stats = stats := by
  rw [Answer.decode, Outcome.bind_eq_ok]
  simp only [orMalformed_eq_ok, Answer.ofEnvelope_eq_ok, Result.ofJson_eq_streams]
  rfl

/-! ### Spoilt answers -/

/-- The value holds the item, among those of some labels. -/
inductive HoldsItem : Json → Json → Prop
  | object {vs values : List Json} {members : List (String × Json)} {item : Json}
    (hv : .object members ∈ vs) (hvalues : Dictionary.find? members "values" = some (.array values))
    (hitem : item ∈ values) : HoldsItem (.array vs) item
  | array {vs values rest : List Json} {labels item : Json}
    (hv : .array (labels :: .array values :: rest) ∈ vs) (hitem : item ∈ values) :
    HoldsItem (.array vs) item

/-- Whatever items streams hold, each of them is an entry. -/
theorem IsStreams.exists_entry {v item : Json} {ss : List Stream} (h : IsStreams v ss)
    (hitem : HoldsItem v item) : ∃ e, IsEntry item e := by
  obtain ⟨vs, rfl, hall⟩ := h
  cases hitem with
  | object hv hvalues hitem =>
    obtain ⟨s, -, hs⟩ := Outcome.exists_of_forall₂ hall hv
    cases hs with
    | object _ hvalues' hitems =>
      rw [hvalues] at hvalues'
      cases hvalues'
      obtain ⟨e, -, he⟩ := Outcome.exists_of_forall₂ hitems hitem
      exact ⟨e, he⟩
  | array hv hitem =>
    obtain ⟨s, -, hs⟩ := Outcome.exists_of_forall₂ hall hv
    cases hs with
    | array hitems =>
      obtain ⟨e, -, he⟩ := Outcome.exists_of_forall₂ hitems hitem
      exact ⟨e, he⟩

/-- One item that is no entry, wherever it is held, spoils an answer of streams. -/
theorem exists_decode_eq_error {body : Bytes} {e : Envelope} (he : Encloses body e)
    (hkind : e.kind = Kind.streams.name) {item : Json} (hitem : HoldsItem e.result item)
    (hentry : ¬∃ entry, IsEntry item entry) : ∃ err, Answer.decode body = .error err := by
  cases h : Answer.decode body with
  | error err => exact ⟨err, rfl⟩
  | ok a =>
    rw [Answer.decode, he] at h
    obtain ⟨-, hresult, -⟩ := Answer.ofEnvelope_eq_ok.mp h
    obtain ⟨ss, hss⟩ : ∃ ss, Result.ofJson e.kind e.result = .ok (.streams ss) := by
      rw [Result.ofJson, if_pos hkind] at hresult ⊢
      obtain ⟨ss, hss, -⟩ := Outcome.map_eq_ok.mp hresult
      exact ⟨ss, Outcome.map_eq_ok.mpr ⟨ss, hss, rfl⟩⟩
    exact absurd ((Result.ofJson_eq_streams.mp hss).2.exists_entry hitem) hentry

end FlowConsole.Response
