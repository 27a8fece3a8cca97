import FlowConsole.Proofs.Duration.Canonical
import FlowConsole.Proofs.Request.Metrics

/-!
# Durations of requests

What a text asks for as a duration (`Asks`): the length of a literal, or a number of seconds. A
parameter is read as just that (`duration_eq_ok`). What can be asked for is a whole number of
milliseconds, so the canonical text that goes into the queries says the same
(`canonical_reads_back`).
-/

open FlowConsole.Text (trimmed)

namespace FlowConsole

/-- A number of seconds is the duration of as many times the nanoseconds of one. -/
theorem Duration.ofSeconds_eq_ok {seconds : Int} {d : Duration} :
    ofSeconds seconds = .ok d ↔ seconds * TimeUnit.second.nanos = d.nanos := by
  have hpos := d.pos
  have hmax := d.le_max
  rw [ofSeconds]
  constructor
  · intro h
    split at h
    · cases h
    · next nanos hnanos =>
      obtain ⟨-, rfl⟩ := Integer.checked_eq_some.mp hnanos
      rw [ofNanos] at h
      split at h
      · next hrange =>
        cases h
        exact (Int.toNat_of_nonneg hrange.1.le).symm
      · cases h
  · intro h
    have hfits : Integer.FitsInt64 d.nanos := by
      rw [Integer.FitsInt64]
      omega
    rw [h, Integer.checked_eq_some.mpr ⟨hfits, rfl⟩]
    exact ofNanos_eq_ok.mpr rfl

namespace Request

/-- The text asks for the duration, by a literal or by a number of seconds, with blanks around
either. -/
inductive Asks (text : String) (d : Duration) : Prop
  | literal {parts : List Duration.WrittenPart} (h : Duration.Spells text parts)
    (hlength : Duration.total parts = d.nanos)
  | seconds {n : Int} (h : Integer.Spells (trimmed text.toList) n)
    (hlength : n * Duration.TimeUnit.second.nanos = d.nanos)

/-- What can be asked for is a whole number of milliseconds. -/
theorem Asks.millisecond_dvd {text : String} {d : Duration} (h : Asks text d) :
    Duration.TimeUnit.millisecond.nanos ∣ d.nanos := by
  cases h with
  | @literal parts _ hlength => exact hlength ▸ Duration.millisecond_dvd_total parts
  | @seconds n _ hlength =>
    have hdvd : (Duration.TimeUnit.millisecond.nanos : Int) ∣ Duration.TimeUnit.second.nanos := by
      decide
    exact Int.natCast_dvd_natCast.mp (hlength ▸ Dvd.dvd.mul_left hdvd n)

/-- A literal has a unit, so it is no integer. -/
theorem not_spells_integer {text : String} {parts : List Duration.WrittenPart} {n : Int}
    (h : Duration.Spells text parts) : ¬Integer.Spells (trimmed text.toList) n := by
  intro hinteger
  obtain ⟨p, rest, hparts⟩ := List.exists_cons_of_ne_nil h.ne_nil
  have hunit : ∃ c ∈ p.unit.symbol, ¬(c.isDigit = true ∨ c = '+' ∨ c = '-') := by
    cases p.unit <;> exact ⟨_, List.mem_cons_self, by decide⟩
  obtain ⟨c, hc, hletter⟩ := hunit
  refine hletter (hinteger.digit_or_sign ?_)
  rw [h.trimmed_eq, hparts, List.flatMap_cons]
  exact List.mem_append_left _ (List.mem_append_right _ hc)

namespace Parameters

/-- A text is read as seconds exactly if it spells their number. -/
theorem readSeconds_eq_ok {text : String} {d : Duration} :
    readSeconds text = .ok d ↔
      ∃ n, Integer.Spells (trimmed text.toList) n ∧
        n * Duration.TimeUnit.second.nanos = d.nanos := by
  have htrim : (Text.trim text).toList = trimmed text.toList := String.toList_ofList
  rw [readSeconds]
  constructor
  · intro h
    split at h
    · cases h
    · next n hn =>
      split at h
      · cases h
      · next hseconds =>
        cases h
        exact ⟨n, htrim ▸ (Integer.parse_eq_ok.mp hn).1, Duration.ofSeconds_eq_ok.mp hseconds⟩
  · rintro ⟨n, hn, hlength⟩
    have hfits : Integer.FitsInt64 n := by
      have hpos := d.pos
      have hmax := d.le_max
      rw [Duration.TimeUnit.nanos] at hlength
      rw [Integer.FitsInt64]
      omega
    have hread : Integer.parse (Text.trim text) = .ok n :=
      Integer.parse_eq_ok.mpr ⟨htrim.symm ▸ hn, hfits⟩
    simp only [hread, Duration.ofSeconds_eq_ok.mpr hlength]

/-- A parameter is read as a duration exactly if its text asks for it. -/
theorem duration_eq_ok {ps : Parameters} {field byDefault : String} {d : Duration} :
    ps.duration field byDefault = .ok d ↔ Asks ((ps.get? field).getD byDefault) d := by
  rw [duration]
  generalize (ps.get? field).getD byDefault = text
  constructor
  · intro h
    split at h
    · next hliteral =>
      cases h
      obtain ⟨parts, hparts, hlength⟩ := Duration.exists_of_parse hliteral
      exact .literal hparts hlength
    · split at h
      · next hseconds =>
        cases h
        obtain ⟨n, hn, hlength⟩ := readSeconds_eq_ok.mp hseconds
        exact .seconds hn hlength
      · cases h
  · intro h
    cases h with
    | literal hparts hlength => simp only [hparts.parse_eq hlength]
    | seconds hn hlength =>
      cases hliteral : Duration.parse text with
      | ok e =>
        obtain ⟨parts, hparts, -⟩ := Duration.exists_of_parse hliteral
        exact absurd hn (not_spells_integer hparts)
      | error e => simp only [readSeconds_eq_ok.mpr ⟨_, hn, hlength⟩]

end Parameters

/-- The canonical text of a duration reads back as the duration exactly if that is a whole number of
milliseconds. A parameter is read as a duration exactly if its text asks for it, and whatever a text
asks for reads back from its canonical text. So in every request that is read, the texts of the step
and of the rate interval are read as just what the parameters, or their defaults, ask for. -/
theorem canonical_reads_back :
    (∀ d : Duration, Duration.parse d.render = .ok d ↔
      Duration.TimeUnit.millisecond.nanos ∣ d.nanos) ∧
    (∀ (ps : Parameters) (field byDefault : String) (d : Duration),
      ps.duration field byDefault = .ok d ↔ Asks ((ps.get? field).getD byDefault) d) ∧
    (∀ (text : String) (d : Duration), Asks text d → Duration.parse d.render = .ok d) ∧
    ∀ (ps : Parameters) (now : Int) (r : Metrics), Metrics.read ps now = .ok r →
      (∃ d, Asks ((ps.get? "step").getD "30s") d ∧ r.metric.step = d.render ∧
        Duration.parse r.metric.step = .ok d) ∧
      ∃ d, Asks ((ps.get? "rateInterval").getD "2m") d ∧ r.metric.rateInterval = d.render ∧
        Duration.parse r.metric.rateInterval = .ok d := by
  have hasked (text : String) (d : Duration) (h : Asks text d) : Duration.parse d.render = .ok d :=
    Duration.parse_render_eq_ok.mpr h.millisecond_dvd
  refine ⟨fun d => Duration.parse_render_eq_ok, fun ps field byDefault d =>
    Parameters.duration_eq_ok, hasked, fun ps now r h => ?_⟩
  have hread := Metrics.read_eq_ok.mp h
  obtain ⟨step, hstep, hstepText⟩ := hread.step
  obtain ⟨interval, hinterval, hintervalText⟩ := hread.rateInterval
  have hstep := Parameters.duration_eq_ok.mp hstep
  have hinterval := Parameters.duration_eq_ok.mp hinterval
  rw [← hstepText, ← hintervalText]
  exact ⟨⟨step, hstep, rfl, hasked _ _ hstep⟩, interval, hinterval, rfl, hasked _ _ hinterval⟩

/-- A step of seconds with zeros in front and an interval that has a day, which canonical texts have
not. -/
theorem canonical_reads_back_dayInterval :
    let ps : Parameters := [("type", "Bytes"), ("aggregateBy", "app"), ("step", " 0090\t"),
      ("rateInterval", "1d250ms")]
    let d : Duration := ⟨90000000000, by decide, by decide⟩
    Asks " 0090\t" d ∧ Duration.parse "1m30s" = .ok d ∧
      ∃ r, Metrics.read ps 0 = .ok r ∧ r.metric.step = "1m30s" ∧
        r.metric.rateInterval = "24h250ms" ∧
        (∃ d, Asks " 0090\t" d ∧ r.metric.step = d.render ∧
          Duration.parse r.metric.step = .ok d) ∧
        ∃ d, Asks "1d250ms" d ∧ r.metric.rateInterval = d.render ∧
          Duration.parse r.metric.rateInterval = .ok d := by
  intro ps d
  have hninety : Integer.read (trimmed " 0090\t".toList) = .ok 90 := by decide +kernel
  have hasks : Asks " 0090\t" d := .seconds (Integer.read_eq_ok.mp hninety).1 (by decide)
  have hrender : d.render = "1m30s" := by decide +kernel
  have hparse := canonical_reads_back.2.2.1 _ d hasks
  rw [hrender] at hparse
  refine ⟨hasks, hparse, ?_⟩
  obtain ⟨r, hr⟩ := Outcome.exists_of_isOk (x := Metrics.read ps 0) (by decide +kernel)
  have htexts : (Metrics.read ps 0).map (fun r => (r.metric.step, r.metric.rateInterval)) =
    .ok ("1m30s", "24h250ms") := by decide +kernel
  rw [hr] at htexts
  obtain ⟨hstep, hinterval⟩ := Prod.mk.inj (Except.ok.inj htexts)
  exact ⟨r, hr, hstep, hinterval, canonical_reads_back.2.2.2 ps 0 r hr⟩

end Request

end FlowConsole
