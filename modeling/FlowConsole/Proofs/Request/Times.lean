import FlowConsole.Proofs.Request.Metrics
import FlowConsole.Proofs.Request.Windows

/-!
# Times of requests for metrics

Besides the window that its times ask for, a request for metrics has a window for metric stores,
whose bounds are both closed. All bounds are exact (`Metrics.IsExact`), and a request is refused for
its times exactly if one of them is garbled or an exact bound does not fit in 64 bits
(`Metrics.TimeFault`, `Metrics.times_exact`). Steps that read other parameters never refuse it for
its times (`Metrics.Spares`).
-/

open FlowConsole.Integer (FitsInt64)

namespace FlowConsole.Request

/-- The limit that is asked for: a positive integer, or the limit when there is none. -/
inductive Limits (ps : Parameters) : Nat → Prop
  | given {n : Nat} (h : ps.Holds "limit" n) (hpos : 0 < n) : Limits ps n
  | byDefault (h : ps.Lacks "limit") : Limits ps 100

/-- A limit is read exactly if it is asked for. -/
theorem Parameters.limit_eq_ok {ps : Parameters} {n : Nat} : ps.limit = .ok n ↔ Limits ps n := by
  rw [limit, Outcome.bind_eq_ok]
  constructor
  · rintro ⟨given, hgiven, h⟩
    cases given with
    | none =>
      cases h
      exact .byDefault (integer?_eq_none.mp hgiven)
    | some i =>
      dsimp only at h
      split at h
      · next hpos =>
        cases h
        have hi : (i.toNat : Int) = i := Int.toNat_of_nonneg hpos.le
        exact .given (hi.symm ▸ integer?_eq_some.mp hgiven) (by omega)
      · cases h
  · intro h
    cases h with
    | given h hpos =>
      refine ⟨_, integer?_eq_some.mpr h, ?_⟩
      dsimp only
      rw [if_pos (Int.natCast_pos.mpr hpos), Int.toNat_natCast]
      rfl
    | byDefault h => exact ⟨none, integer?_eq_none.mpr h, rfl⟩

/-- A limit is positive and fits in 64 bits. -/
theorem Limits.pos_le {ps : Parameters} {n : Nat} (h : Limits ps n) :
    0 < n ∧ n ≤ Integer.maxInt64 := by
  cases h with
  | given h hpos => exact ⟨hpos, Int.ofNat_le.mp h.fits.2⟩
  | byDefault h => decide

namespace Metrics

variable {ps : Parameters} {now : Int}

/-- A window is closed to the present and to an hour before its end, exactly if an hour can be taken
off where it has to be. -/
theorem closedWindow_eq_ok {w : Window} {p : PromQL.Window} :
    closedWindow w now = .ok p ↔
      p.finish = w.finish.getD now ∧ p.start = w.start.getD (p.finish - 3600) ∧
        (w.start = none → FitsInt64 (p.finish - 3600)) := by
  obtain ⟨start, finish⟩ := p
  rw [closedWindow]
  cases w.start with
  | some n =>
    constructor
    · intro h
      cases h
      exact ⟨rfl, rfl, nofun⟩
    · rintro ⟨rfl, rfl, -⟩
      rfl
  | none =>
    rw [Outcome.bind_eq_ok]
    constructor
    · rintro ⟨n, hn, h⟩
      obtain ⟨hfits, rfl⟩ := inRange_eq_ok.mp hn
      cases h
      exact ⟨rfl, rfl, fun _ => hfits⟩
    · rintro ⟨rfl, hstart, hfits⟩
      exact ⟨start, inRange_eq_ok.mpr ⟨hfits rfl, hstart⟩, rfl⟩

/-- A window that is not closed is open at its start, an hour cannot be taken off its end, and the
rejection tells so. -/
theorem of_closedWindow_eq_error {w : Window} {e : Rejection}
    (h : closedWindow w now = .error e) :
    w.start = none ∧ ¬FitsInt64 (w.finish.getD now - 3600) ∧ e.ConcernsTime := by
  rw [closedWindow] at h
  cases hopen : w.start with
  | some n =>
    rw [hopen] at h
    cases h
  | none =>
    rw [hopen] at h
    obtain ⟨hfits, rfl⟩ := inRange_eq_error.mp (Outcome.bind_pure_eq_error.mp h)
    exact ⟨rfl, hfits, .outOfRange (by decide)⟩

/-- The bounds and the limit of a request are those that its parameters ask for, exactly. -/
structure IsExact (ps : Parameters) (now : Int) (r : Metrics) : Prop where
  start : Starts ps now r.flow.start
  finish : Finishes ps r.flow.finish
  promFinish : r.promWindow.finish = r.flow.finish.getD now
  promStart : r.promWindow.start = r.flow.start.getD (r.promWindow.finish - 3600)
  limit : Limits ps r.metric.top
  flowLimit : r.flow.limit = some r.metric.top

/-- The bounds and the limit of a request fit in 64 bits. -/
structure IsInRange (r : Metrics) : Prop where
  start : Fits r.flow.start
  finish : Fits r.flow.finish
  promStart : FitsInt64 r.promWindow.start
  promFinish : FitsInt64 r.promWindow.finish
  limit : 0 < r.metric.top ∧ r.metric.top ≤ Integer.maxInt64

/-- Some bound has no number in 64 bits: one of the window has a fault, or an hour cannot be taken
off the end, or off the present, where no start is asked for. -/
inductive TimeFault (ps : Parameters) (now : Int) : Prop
  | start (h : StartFault ps now)
  | finish (h : FinishFault ps)
  | promStart {finish : Option Int} (hstart : Starts ps now none) (hfinish : Finishes ps finish)
    (hn : ¬FitsInt64 (finish.getD now - 3600))

/-- A request that is read is exact, and in range if the present is. -/
theorem ReadsFrom.isExact {r : Metrics} (h : ReadsFrom ps now r) :
    r.IsExact ps now ∧ (FitsInt64 now → r.IsInRange) := by
  obtain ⟨⟨hstart, hfitsStart⟩, hfinish, hfitsFinish⟩ := Window.read_eq_ok.mp h.window
  obtain ⟨hpromFinish, hpromStart, hfitsProm⟩ := closedWindow_eq_ok.mp h.promWindow
  have hlimit := Parameters.limit_eq_ok.mp h.limit
  have hpromStartFits : FitsInt64 r.promWindow.start := by
    rw [hpromStart]
    cases hopen : r.flow.start with
    | none => exact hfitsProm hopen
    | some n => exact hfitsStart n hopen
  have hpromFinishFits (hnow : FitsInt64 now) : FitsInt64 r.promWindow.finish := by
    rw [hpromFinish]
    cases hopen : r.flow.finish with
    | none => exact hnow
    | some n => exact hfitsFinish n hopen
  exact ⟨⟨hstart, hfinish, hpromFinish, hpromStart, hlimit, h.flowLimit⟩, fun hnow =>
    ⟨hfitsStart, hfitsFinish, hpromStartFits, hpromFinishFits hnow, hlimit.pos_le⟩⟩

/-- A request with a fault in its times is not read. -/
theorem TimeFault.not_readsFrom (h : TimeFault ps now) (r : Metrics) : ¬ReadsFrom ps now r := by
  intro hread
  have hnone : ¬∃ e, Window.read ps now = .error e := by
    rw [hread.window]
    nofun
  obtain ⟨hstart, hfinish⟩ := Window.read_eq_ok.mp hread.window
  cases h with
  | start h => exact hnone (Window.exists_read_eq_error.mpr (.inl h))
  | finish h => exact hnone (Window.exists_read_eq_error.mpr (.inr h))
  | promStart hopen hclosed hn =>
    obtain ⟨hpromFinish, -, hfits⟩ := closedWindow_eq_ok.mp hread.promWindow
    rw [hclosed.unique hfinish.1, ← hpromFinish] at hn
    exact hn (hfits (hstart.1.unique hopen))

/-- The parameters other than the times are the same. -/
def SameOthers (ps others : Parameters) : Prop :=
  ∀ name ∉ timeFields, ps.get? name = others.get? name

/-- Where the others are the same, all of a request but its windows is read as before. -/
theorem ReadsRest.of_sameOthers {others : Parameters} {r : Metrics} (h : ReadsRest others r)
    (hsame : SameOthers ps others) : ReadsRest ps r where
  limit := by
    simpa only [Parameters.limit, Parameters.integer?, hsame "limit" (by decide)] using h.limit
  step := by simpa only [Parameters.duration, hsame "step" (by decide)] using h.step
  rateInterval := by
    simpa only [Parameters.duration, hsame "rateInterval" (by decide)] using h.rateInterval
  measure := by
    simpa only [readMeasure, Parameters.given?, hsame "type" (by decide)] using h.measure
  function := by
    simpa only [Parameters.word?, Parameters.given?, hsame "function" (by decide)] using h.function
  aggregate := by
    simpa only [readAggregate, aggregateKey, hsame "aggregateBy" (by decide),
      hsame "scope" (by decide), hsame "groups" (by decide)] using h.aggregate
  dedup := by
    simpa only [Parameters.flag, Parameters.given?, hsame "dedup" (by decide)] using h.dedup
  recordType := by
    simpa only [Parameters.recordType?, Parameters.word?, Parameters.given?,
      hsame "recordType" (by decide)] using h.recordType
  packetLoss := by
    simpa only [Parameters.packetLoss, Parameters.word?, Parameters.given?,
      hsame "packetLoss" (by decide)] using h.packetLoss
  filters := by simpa only [Parameters.filters, hsame "filters" (by decide)] using h.filters
  source := by simpa only [hsame "dataSource" (by decide)] using h.source
  layer := by
    simpa only [Parameters.word?, Parameters.given?, hsame "layer" (by decide)] using h.layer
  reporter := by
    simpa only [Parameters.word?, Parameters.given?, hsame "reporter" (by decide)] using h.reporter
  namespaceName := by
    simpa only [Parameters.given?, hsame "namespace" (by decide)] using h.namespaceName
  flowLimit := h.flowLimit

/-! ### Refusals for the times -/

/-- The step never refuses a request for its times. -/
def Spares {α : Type} (x : Except Failure α) : Prop :=
  ∀ reason : Rejection, reason.ConcernsTime → x ≠ .error (.rejected reason)

namespace Spares

variable {α β : Type}

/-- What does not fail spares the times. -/
theorem ok (a : α) : Spares (.ok a) := fun _ _ => nofun

/-- Steps in order spare the times if each of them does. -/
theorem bind {x : Except Failure α} {f : α → Except Failure β} (hx : Spares x)
    (hf : ∀ a, x = .ok a → Spares (f a)) : Spares (x >>= f) := by
  intro reason htime h
  rcases Outcome.bind_eq_error.mp h with h | ⟨a, ha, h⟩
  · exact hx reason htime h
  · exact hf a ha reason htime h

/-- A step spares the times whatever is made of its result. -/
theorem map {x : Except Failure α} {f : α → β} (hx : Spares x) : Spares (x.map f) :=
  fun reason htime h => hx reason htime (Outcome.map_eq_error.mp h)

/-- A step is spared if the rejections that it may fail with are. -/
theorem accept {x : Except Rejection α} (h : ∀ e, x = .error e → ¬e.ConcernsTime) :
    Spares (accept x) := by
  intro reason htime hx
  cases x with
  | ok a => cases hx
  | error e =>
    cases hx
    exact h reason rfl htime

/-- What is no rejection is not for the times. -/
theorem mapError {ε : Type} {x : Except ε α} {f : ε → Failure}
    (h : ∀ e reason, f e ≠ .rejected reason) : Spares (x.mapError f) := by
  intro reason _ hx
  cases x with
  | ok a => cases hx
  | error e => exact h e reason (Except.error.inj hx)

/-- A word is spared if its reader is. -/
theorem word {ps : Parameters} {field : String} {read : String → Except Rejection α}
    (h : ∀ word e, read word = .error e → ¬e.ConcernsTime) :
    Spares (Request.accept (ps.word? field read)) := by
  refine accept fun e he => ?_
  rw [Parameters.word?] at he
  cases hword : ps.given? field with
  | none =>
    rw [hword] at he
    cases he
  | some word =>
    rw [hword] at he
    exact h word e (Outcome.map_eq_error.mp he)

/-- The limit is told by its own name, or by its value. -/
theorem limit (ps : Parameters) : Spares (Request.accept ps.limit) := by
  refine accept fun e he htime => ?_
  rcases Outcome.bind_eq_error.mp he with he | ⟨given, -, he⟩
  · obtain ⟨text, reason, rfl⟩ := Parameters.exists_of_integer?_eq_error he
    cases htime with
    | garbled h => exact absurd h (by decide)
  · cases given with
    | none => cases he
    | some n =>
      dsimp only at he
      split at he
      · cases he
      · cases he
        cases htime

/-- A duration is told by its own name. -/
theorem duration (ps : Parameters) (field byDefault : String) :
    Spares (Request.accept (ps.duration field byDefault)) := by
  refine accept fun e he htime => ?_
  rw [Parameters.duration] at he
  split at he
  · cases he
  · split at he
    · cases he
    · cases he
      cases htime

/-- A measured value is told by its own name, or by its word. -/
theorem measure (ps : Parameters) : Spares (readMeasure ps) := by
  rw [readMeasure]
  split
  · intro reason htime h
    cases h
    cases htime
  · exact mapError fun _ _ => nofun

/-- The labels to group by are told by their own name, or by their key. -/
theorem aggregate (ps : Parameters) : Spares (readAggregate ps) := by
  refine bind (accept fun e he htime => ?_) fun key _ =>
    bind (mapError fun _ _ => nofun) fun a _ => ?_
  · rw [aggregateKey] at he
    split at he
    · cases he
      cases htime
    · cases he
  · split
    · intro reason htime h
      cases h
      cases htime
    · exact ok a

/-- A flag is told by its own name. -/
theorem flag (ps : Parameters) (field : String) : Spares (Request.accept (ps.flag field)) := by
  refine accept fun e he htime => ?_
  rw [Parameters.flag] at he
  split at he
  · cases he
  · cases he
  · cases he
  · cases he
    cases htime

/-- A data source is told by its word. -/
theorem source (word : String) : Spares (Request.accept (SourceChoice.parse word)) := by
  refine accept fun e he htime => ?_
  rw [SourceChoice.parse] at he
  repeat' split at he
  all_goals cases he
  cases htime

/-- A layer is told by its word. -/
theorem layer (ps : Parameters) : Spares (Request.accept (ps.word? "layer" Layer.parse)) := by
  refine word fun word e he htime => ?_
  rw [Layer.parse] at he
  repeat' split at he
  all_goals cases he
  cases htime

/-- A reporter is told by its word. -/
theorem reporter (ps : Parameters) :
    Spares (Request.accept (ps.word? "reporter" readReporter)) := by
  refine word fun word e he htime => ?_
  rw [readReporter] at he
  cases h : Reporter.ofWord? word with
  | none =>
    rw [h] at he
    cases he
    cases htime
  | some r =>
    rw [h] at he
    cases he

end Spares

/-- Without a fault in its times, a request is not refused for them: the windows do not fail, and
nothing else refuses for the times. -/
theorem spares_read (h : ¬TimeFault ps now) : Spares (read ps now) := by
  have hwindow (e : Rejection) : Window.read ps now ≠ .error e := by
    intro he
    rcases Window.exists_read_eq_error.mp ⟨e, he⟩ with hfault | hfault
    · exact h (.start hfault)
    · exact h (.finish hfault)
  have hclosed (w : Window) (hw : Window.read ps now = .ok w) (e : Rejection) :
      closedWindow w now ≠ .error e := by
    intro he
    obtain ⟨hopen, hn, -⟩ := of_closedWindow_eq_error he
    obtain ⟨⟨hstart, -⟩, hfinish, -⟩ := Window.read_eq_ok.mp hw
    exact h (.promStart (hopen ▸ hstart) hfinish hn)
  -- Of the steps, only the two windows can refuse the times, and those do not fail here.
  refine .bind (.accept fun e he => absurd he (hwindow e)) fun window hw => ?_
  refine .bind (.limit ps) fun top _ => ?_
  refine .bind (.duration ps "step" "30s") fun step _ => ?_
  refine .bind (.duration ps "rateInterval" "2m") fun rateInterval _ => ?_
  refine .bind (.measure ps) fun measure _ => ?_
  refine .bind (.mapError fun _ _ => nofun) fun function _ => ?_
  refine .bind (.aggregate ps) fun aggregate _ => ?_
  refine .bind (.flag ps "dedup") fun dedup _ => ?_
  refine .bind (.accept fun e he => ?_) fun promWindow _ => ?_
  · exact absurd he (hclosed window (Outcome.mapError_eq_ok.mp hw) e)
  refine .bind (.mapError fun _ _ => nofun) fun recordType _ => ?_
  refine .bind (.map (.mapError fun _ _ => nofun)) fun packetLoss _ => ?_
  refine .bind (.mapError fun _ _ => nofun) fun filters _ => ?_
  refine .bind (.source _) fun source _ => ?_
  refine .bind (.layer ps) fun layer _ => ?_
  exact .bind (.reporter ps) fun reporter _ => .ok _

/-- A request is refused, as a bad request, for its times. -/
def RefusesTimes (ps : Parameters) (now : Int) : Prop :=
  ∃ e : Failure, read ps now = .error e ∧ e.status = 400 ∧
    ∃ reason : Rejection, e = .rejected reason ∧ reason.ConcernsTime

/-- A fault of the window refuses a request for its times, whatever else it asks for. -/
theorem refusesTimes_of_window (h : StartFault ps now ∨ FinishFault ps) : RefusesTimes ps now := by
  obtain ⟨e, he⟩ := Window.exists_read_eq_error.mpr h
  refine ⟨.rejected e, ?_, rfl, e, rfl, Window.concernsTime_of_read he⟩
  rw [read, he]
  rfl

/-- Where all else can be read, a request is read or refused for its times. -/
theorem ReadsRest.read_or_refusesTimes {r : Metrics} (h : ReadsRest ps r) (now : Int) :
    (∃ r, read ps now = .ok r) ∨ RefusesTimes ps now := by
  have hread := h.read_eq now
  cases hwindow : Window.read ps now with
  | error e =>
    exact .inr (refusesTimes_of_window (Window.exists_read_eq_error.mp ⟨e, hwindow⟩))
  | ok w =>
    rw [hwindow, accept, Except.mapError, Outcome.ok_bind] at hread
    cases hclosed : closedWindow w now with
    | error e =>
      rw [hclosed] at hread
      exact .inr ⟨.rejected e, hread, rfl, e, rfl, (of_closedWindow_eq_error hclosed).2.2⟩
    | ok p =>
      rw [hclosed] at hread
      exact .inl ⟨_, hread⟩

/-- Windows and limits are read exactly as they are asked for, and a window is refused exactly for
its faults. A request that is read has exact bounds, all in range. It is refused for its times only
if these have a fault, and always if a fault is the window's. Where the other parameters can be
read, as they are with some other times, it is refused for its times exactly if these have a fault,
and read exactly if not. -/
theorem times_exact (ps : Parameters) (now : Int) (hnow : FitsInt64 now) :
    ((∀ w, Window.read ps now = .ok w ↔
        (Starts ps now w.start ∧ Fits w.start) ∧ Finishes ps w.finish ∧ Fits w.finish) ∧
      ((∃ e, Window.read ps now = .error e) ↔ StartFault ps now ∨ FinishFault ps) ∧
      (∀ e, Window.read ps now = .error e → e.ConcernsTime) ∧
      ∀ n, ps.limit = .ok n ↔ Limits ps n) ∧
    (∀ r, read ps now = .ok r → r.IsExact ps now ∧ r.IsInRange) ∧
    (RefusesTimes ps now → TimeFault ps now) ∧
    (StartFault ps now ∨ FinishFault ps → RefusesTimes ps now) ∧
    ∀ (others : Parameters) (before : Int) (r : Metrics), SameOthers ps others →
      read others before = .ok r →
        (RefusesTimes ps now ↔ TimeFault ps now) ∧
        ((∃ r, read ps now = .ok r) ↔ ¬TimeFault ps now) := by
  have honly : RefusesTimes ps now → TimeFault ps now := by
    rintro ⟨e, he, -, reason, rfl, htime⟩
    by_contra hfault
    exact spares_read hfault reason htime he
  refine ⟨⟨fun w => Window.read_eq_ok, Window.exists_read_eq_error,
    fun e => Window.concernsTime_of_read, fun n => Parameters.limit_eq_ok⟩, fun r h => ?_, honly,
    refusesTimes_of_window, fun others before r hsame hbefore => ?_⟩
  · obtain ⟨hexact, hrange⟩ := (read_eq_ok.mp h).isExact
    exact ⟨hexact, hrange hnow⟩
  · have hrest : ReadsRest ps r := (read_eq_ok.mp hbefore).toReadsRest.of_sameOthers hsame
    have hunread (h : TimeFault ps now) : ¬∃ r, read ps now = .ok r := by
      rintro ⟨r', hr'⟩
      exact h.not_readsFrom r' (read_eq_ok.mp hr')
    have hor := hrest.read_or_refusesTimes now
    exact ⟨⟨honly, fun h => hor.resolve_left (hunread h)⟩, fun hr h => hunread h hr,
      fun h => hor.resolve_right (mt honly h)⟩

/-- The extremes: an end time whose next second is the last of 64 bits is read, one from which no
hour can be taken off is refused if no start is asked for, and a range that is not needed is not
looked at. -/
theorem times_exact_extremes :
    let now : Int := 1700000000
    let others : Parameters := [("type", "Bytes"), ("aggregateBy", "app"), ("limit", "7")]
    let early := ("endTime", "-9223372036854775807") :: others
    let late := [("startTime", " +5 "), ("endTime", "9223372036854775806"),
      ("timeRange", "an hour")] ++ others
    FitsInt64 now ∧
      (∃ r, read late now = .ok r ∧ (r.IsExact late now ∧ r.IsInRange) ∧
        r.flow.start = some 5 ∧ r.promWindow = ⟨5, Integer.maxInt64⟩ ∧ r.metric.top = 7) ∧
      (∃ r, read others now = .ok r) ∧ SameOthers early others ∧ TimeFault early now ∧
      RefusesTimes early now := by
  intro now others early late
  have hnow : FitsInt64 now := by decide
  obtain ⟨r, hr⟩ := Outcome.exists_of_isOk (x := read late now) (by decide +kernel)
  obtain ⟨plain, hplain⟩ := Outcome.exists_of_isOk (x := read others now) (by decide +kernel)
  have hparts : (read late now).map (fun r => (r.flow.start, r.promWindow, r.metric.top)) =
    .ok (some 5, ⟨5, Integer.maxInt64⟩, 7) := by decide +kernel
  rw [hr] at hparts
  obtain ⟨hstart, hrest⟩ := Prod.mk.inj (Except.ok.inj hparts)
  obtain ⟨hprom, htop⟩ := Prod.mk.inj hrest
  have hsame : SameOthers early others := by
    intro name hname
    rw [Parameters.get?, List.lookup_cons]
    have hne : (name == "endTime") = false := beq_eq_false_iff_ne.mpr fun h =>
      hname (h ▸ by decide)
    rw [hne]
    rfl
  have hopen : Starts early now none :=
    .unbounded (Parameters.integer?_eq_none.mp (by decide +kernel))
      (Parameters.integer?_eq_none.mp (by decide +kernel))
  have hend : Finishes early (some (-9223372036854775807 + 1)) :=
    .given (Parameters.integer?_eq_some.mp (by decide +kernel))
  have hfault : TimeFault early now := .promStart hopen hend (by decide)
  exact ⟨hnow, ⟨r, hr, (times_exact late now hnow).2.1 r hr, hstart, hprom, htop⟩,
    ⟨plain, hplain⟩, hsame, hfault,
    ((times_exact early now hnow).2.2.2.2 others now plain hsame hplain).1.mpr hfault⟩

end Metrics

end FlowConsole.Request
