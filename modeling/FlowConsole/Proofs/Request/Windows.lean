import FlowConsole.Proofs.Text.Integers
import FlowConsole.Request.Parameter

/-!
# Windows of requests

A parameter for an integer holds one, is garbled, or lacks a text, as reading it shows
(`Parameters.integer?_eq_some`, `Parameters.exists_integer?_eq_error`,
`Parameters.integer?_eq_none`). The bounds that the times of a request ask for are exact sums and
differences, whatever their size (`Starts`, `Finishes`). A window is read exactly if these
bounds fit in 64 bits, and then has them (`Window.read_eq_ok`); it is refused exactly if a time that
is read is garbled or a bound does not fit (`Window.exists_read_eq_error`).
-/

open FlowConsole.Integer (FitsInt64)

namespace FlowConsole.Request

namespace Parameters

/-- The text of a parameter without the blanks around it, unless nothing is left. -/
def text? (ps : Parameters) (field : String) : Option String :=
  ((ps.get? field).map Text.trim).filter (· ≠ "")

/-- There is no text, or only blanks. -/
def Lacks (ps : Parameters) (field : String) : Prop := ps.text? field = none

/-- The text is an integer of 64 bits. -/
def Holds (ps : Parameters) (field : String) (n : Int) : Prop :=
  ∃ text, ps.text? field = some text ∧ Integer.Spells text.toList n ∧ FitsInt64 n

/-- There is a text that is no integer of 64 bits. -/
def Garbles (ps : Parameters) (field : String) : Prop :=
  ∃ text, ps.text? field = some text ∧ ¬∃ n, Integer.Spells text.toList n ∧ FitsInt64 n

variable {ps : Parameters} {field : String}

/-- What a parameter holds fits in 64 bits. -/
theorem Holds.fits {n : Int} (h : ps.Holds field n) : FitsInt64 n :=
  h.elim fun _ h => h.2.2

private theorem integer?_eq :
    ps.integer? field = match ps.text? field with
      | none => .ok none
      | some text => ((Integer.parse text).map some).mapError (.invalidInteger field text) := by
  rw [integer?, text?]
  cases (ps.get? field).map Text.trim with
  | none => rfl
  | some text =>
    rw [Option.filter_some]
    split
    · next h => cases h
    · next h =>
      cases h
      rfl
    · next hne h =>
      cases h
      have htext : decide (text ≠ "") = true := decide_eq_true fun h => hne (by rw [h])
      rw [if_pos htext]
      dsimp only
      cases Integer.parse text <;> rfl

/-- An integer is read exactly where the parameter holds it. -/
theorem integer?_eq_some {n : Int} : ps.integer? field = .ok (some n) ↔ ps.Holds field n := by
  rw [integer?_eq, Holds]
  cases ps.text? field with
  | none => simp
  | some text =>
    simp only [Outcome.mapError_eq_ok, Outcome.map_eq_ok, Option.some.injEq, exists_eq_right,
      exists_eq_left', Integer.parse_eq_ok]

/-- Nothing is read exactly where the parameter lacks a text. -/
theorem integer?_eq_none : ps.integer? field = .ok none ↔ ps.Lacks field := by
  rw [integer?_eq, Lacks]
  cases ps.text? field with
  | none => simp
  | some text => simp [Outcome.mapError_eq_ok, Outcome.map_eq_ok]

/-- Reading fails exactly where the parameter is garbled. -/
theorem exists_integer?_eq_error : (∃ e, ps.integer? field = .error e) ↔ ps.Garbles field := by
  rw [integer?_eq, Garbles]
  cases ps.text? field with
  | none => simp
  | some text =>
    simp only [Option.some.injEq, exists_eq_left', ← Integer.exists_parse_eq_error]
    cases Integer.parse text <;> simp [Except.map, Except.mapError]

/-- The error of a garbled parameter names it. -/
theorem exists_of_integer?_eq_error {e : Rejection} (h : ps.integer? field = .error e) :
    ∃ text reason, e = .invalidInteger field text reason := by
  rw [integer?_eq] at h
  cases htext : ps.text? field with
  | none =>
    rw [htext] at h
    cases h
  | some text =>
    rw [htext] at h
    cases hparse : Integer.parse text with
    | ok n =>
      simp only [hparse] at h
      cases h
    | error reason =>
      simp only [hparse] at h
      cases h
      exact ⟨text, reason, rfl⟩

/-- A parameter holds one integer. -/
theorem Holds.unique {n m : Int} (h : ps.Holds field n) (h' : ps.Holds field m) : n = m := by
  have hread := (integer?_eq_some.mpr h).symm.trans (integer?_eq_some.mpr h')
  exact Option.some.inj (Except.ok.inj hread)

/-- A parameter that holds an integer does not lack a text. -/
theorem Holds.not_lacks {n : Int} (h : ps.Holds field n) : ¬ps.Lacks field := by
  obtain ⟨text, htext, -⟩ := h
  rw [Lacks, htext]
  nofun

end Parameters

/-! ### Bounds -/

section

variable {ps : Parameters} {now n m : Int} {o : Option Int}

/-- The start that the times ask for, exactly: the start time, or that long ago. -/
inductive Starts (ps : Parameters) (now : Int) : Option Int → Prop
  | given {n : Int} (h : ps.Holds "startTime" n) : Starts ps now (some n)
  | ago {n : Int} (hstart : ps.Lacks "startTime") (h : ps.Holds "timeRange" n) :
    Starts ps now (some (now - n))
  | unbounded (hstart : ps.Lacks "startTime") (h : ps.Lacks "timeRange") : Starts ps now none

/-- The end that the times ask for, exactly: the second after the end time. -/
inductive Finishes (ps : Parameters) : Option Int → Prop
  | given {n : Int} (h : ps.Holds "endTime" n) : Finishes ps (some (n + 1))
  | unbounded (h : ps.Lacks "endTime") : Finishes ps none

/-- The times ask for one start. -/
theorem Starts.unique {o' : Option Int} (h : Starts ps now o) (h' : Starts ps now o') : o = o' := by
  cases h with
  | given h =>
    cases h' with
    | given h' => rw [h.unique h']
    | ago hstart _ => exact absurd hstart h.not_lacks
    | unbounded hstart _ => exact absurd hstart h.not_lacks
  | ago hstart h =>
    cases h' with
    | given h' => exact absurd hstart h'.not_lacks
    | ago _ h' => rw [h.unique h']
    | unbounded _ h' => exact absurd h' h.not_lacks
  | unbounded hstart h =>
    cases h' with
    | given h' => exact absurd hstart h'.not_lacks
    | ago _ h' => exact absurd h h'.not_lacks
    | unbounded _ _ => rfl

/-- The times ask for one end. -/
theorem Finishes.unique {o' : Option Int} (h : Finishes ps o) (h' : Finishes ps o') : o = o' := by
  cases h with
  | given h =>
    cases h' with
    | given h' => rw [h.unique h']
    | unbounded h' => exact absurd h' h.not_lacks
  | unbounded h =>
    cases h' with
    | given h' => exact absurd h h'.not_lacks
    | unbounded _ => rfl

/-- A bound that there is fits in 64 bits. -/
def Fits (o : Option Int) : Prop := ∀ n ∈ o, FitsInt64 n

/-- Where there is no bound, none fails to fit. -/
@[simp] theorem fits_none : Fits none := nofun

/-- A bound fits if its number does. -/
@[simp] theorem fits_some : Fits (some n) ↔ FitsInt64 n := by
  simp [Fits]

/-- A result is in range exactly if it fits in 64 bits, and is itself then. -/
theorem inRange_eq_ok {field : String} {value : Int} :
    inRange field value n = .ok m ↔ FitsInt64 n ∧ m = n := by
  rw [inRange, ← Integer.checked_eq_some]
  cases Integer.checked n <;> simp

/-- A result that is not in range is told by the parameter and its value. -/
theorem inRange_eq_error {field : String} {value : Int} {e : Rejection} :
    inRange field value n = .error e ↔ ¬FitsInt64 n ∧ e = .outOfRange field value := by
  rw [inRange, Integer.checked]
  by_cases h : FitsInt64 n
  · rw [if_pos h]
    refine iff_of_false (fun he => ?_) fun he => he.1 h
    cases he
  · rw [if_neg h, and_iff_right h, Except.error.injEq, eq_comm]

private theorem mapM_inRange_eq_ok {field : String} {f : Int → Int} {time : Option Int} :
    time.mapM (fun n => inRange field n (f n)) = .ok o ↔ time.map f = o ∧ Fits o := by
  cases time with
  | none =>
    constructor
    · intro h
      cases h
      exact ⟨rfl, fits_none⟩
    · rintro ⟨rfl, -⟩
      rfl
  | some n =>
    constructor
    · intro h
      obtain ⟨m, hm, h⟩ := Outcome.map_eq_ok.mp h
      obtain ⟨hfits, rfl⟩ := inRange_eq_ok.mp hm
      cases h
      exact ⟨rfl, fits_some.mpr hfits⟩
    · rintro ⟨rfl, hfits⟩
      exact Outcome.map_eq_ok.mpr ⟨f n, inRange_eq_ok.mpr ⟨fits_some.mp hfits, rfl⟩, rfl⟩

private theorem mapM_inRange_eq_error {field : String} {f : Int → Int} {time : Option Int}
    {e : Rejection} :
    time.mapM (fun n => inRange field n (f n)) = .error e ↔
      ∃ n, time = some n ∧ ¬FitsInt64 (f n) ∧ e = .outOfRange field n := by
  cases time with
  | none => exact iff_of_false nofun nofun
  | some n =>
    have hmap : (some n).mapM (fun n => inRange field n (f n)) =
      (inRange field n (f n)).map some := rfl
    simp only [hmap, Outcome.map_eq_error, inRange_eq_error, Option.some.injEq, exists_eq_left']

/-- A start is read exactly if the times ask for it and it fits. -/
theorem Window.startOf_eq_ok : startOf ps now = .ok o ↔ Starts ps now o ∧ Fits o := by
  rw [startOf, Outcome.bind_eq_ok]
  constructor
  · rintro ⟨start, hstart, h⟩
    cases start with
    | some n =>
      cases h
      have hn := Parameters.integer?_eq_some.mp hstart
      exact ⟨.given hn, fits_some.mpr hn.fits⟩
    | none =>
      have hstart := Parameters.integer?_eq_none.mp hstart
      obtain ⟨range, hrange, h⟩ := Outcome.bind_eq_ok.mp h
      obtain ⟨rfl, hfits⟩ := mapM_inRange_eq_ok.mp h
      cases range with
      | none => exact ⟨.unbounded hstart (Parameters.integer?_eq_none.mp hrange), hfits⟩
      | some n => exact ⟨.ago hstart (Parameters.integer?_eq_some.mp hrange), hfits⟩
  · rintro ⟨hstarts, hfits⟩
    cases hstarts with
    | given h => exact ⟨_, Parameters.integer?_eq_some.mpr h, rfl⟩
    | ago hstart h =>
      refine ⟨none, Parameters.integer?_eq_none.mpr hstart, ?_⟩
      exact Outcome.bind_eq_ok.mpr ⟨_, Parameters.integer?_eq_some.mpr h,
        mapM_inRange_eq_ok.mpr ⟨rfl, hfits⟩⟩
    | unbounded hstart h =>
      refine ⟨none, Parameters.integer?_eq_none.mpr hstart, ?_⟩
      exact Outcome.bind_eq_ok.mpr ⟨none, Parameters.integer?_eq_none.mpr h, rfl⟩

/-- An end is read exactly if the times ask for it and it fits. -/
theorem Window.finishOf_eq_ok : finishOf ps = .ok o ↔ Finishes ps o ∧ Fits o := by
  rw [finishOf, Outcome.bind_eq_ok]
  constructor
  · rintro ⟨time, htime, h⟩
    obtain ⟨rfl, hfits⟩ := mapM_inRange_eq_ok.mp h
    cases time with
    | none => exact ⟨.unbounded (Parameters.integer?_eq_none.mp htime), hfits⟩
    | some n => exact ⟨.given (Parameters.integer?_eq_some.mp htime), hfits⟩
  · rintro ⟨hfinishes, hfits⟩
    cases hfinishes with
    | given h =>
      exact ⟨_, Parameters.integer?_eq_some.mpr h, mapM_inRange_eq_ok.mpr ⟨rfl, hfits⟩⟩
    | unbounded h => exact ⟨none, Parameters.integer?_eq_none.mpr h, rfl⟩

/-! ### Faults -/

/-- The names of the parameters that tell times. -/
def timeFields : List String := ["startTime", "endTime", "timeRange"]

/-- The rejection is due to a parameter that tells a time. -/
inductive Rejection.ConcernsTime : Rejection → Prop
  | garbled {field text : String} {reason : Integer.Error} (h : field ∈ timeFields) :
    ConcernsTime (.invalidInteger field text reason)
  | outOfRange {field : String} {value : Int} (h : field ∈ timeFields) :
    ConcernsTime (.outOfRange field value)

/-- There is no start in 64 bits: a time that is read for it is garbled, or the exact start does not
fit. -/
inductive StartFault (ps : Parameters) (now : Int) : Prop
  | startTime (h : ps.Garbles "startTime")
  | timeRange (hstart : ps.Lacks "startTime") (h : ps.Garbles "timeRange")
  | outOfRange {n : Int} (h : Starts ps now (some n)) (hn : ¬FitsInt64 n)

/-- There is no end in 64 bits: the end time is garbled, or the exact end does not fit. -/
inductive FinishFault (ps : Parameters) : Prop
  | endTime (h : ps.Garbles "endTime")
  | outOfRange {n : Int} (h : Finishes ps (some n)) (hn : ¬FitsInt64 n)

/-- A start that is not read has a fault, and the rejection tells so. -/
theorem StartFault.of_startOf {e : Rejection} (h : Window.startOf ps now = .error e) :
    StartFault ps now ∧ e.ConcernsTime := by
  rw [Window.startOf] at h
  rcases Outcome.bind_eq_error.mp h with h | ⟨start, hstart, h⟩
  · obtain ⟨text, reason, rfl⟩ := Parameters.exists_of_integer?_eq_error h
    exact ⟨.startTime (Parameters.exists_integer?_eq_error.mp ⟨_, h⟩), .garbled (by decide)⟩
  · cases start with
    | some n => cases h
    | none =>
      have hstart := Parameters.integer?_eq_none.mp hstart
      rcases Outcome.bind_eq_error.mp h with h | ⟨range, hrange, h⟩
      · obtain ⟨text, reason, rfl⟩ := Parameters.exists_of_integer?_eq_error h
        exact ⟨.timeRange hstart (Parameters.exists_integer?_eq_error.mp ⟨_, h⟩),
          .garbled (by decide)⟩
      · obtain ⟨n, rfl, hn, rfl⟩ := mapM_inRange_eq_error.mp h
        exact ⟨.outOfRange (.ago hstart (Parameters.integer?_eq_some.mp hrange)) hn,
          .outOfRange (by decide)⟩

/-- A start with a fault is not read. -/
theorem StartFault.exists_startOf (h : StartFault ps now) :
    ∃ e, Window.startOf ps now = .error e := by
  cases h with
  | startTime h =>
    obtain ⟨e, he⟩ := Parameters.exists_integer?_eq_error.mpr h
    exact ⟨e, Outcome.bind_eq_error.mpr (.inl he)⟩
  | timeRange hstart h =>
    obtain ⟨e, he⟩ := Parameters.exists_integer?_eq_error.mpr h
    exact ⟨e, Outcome.bind_eq_error.mpr (.inr ⟨none, Parameters.integer?_eq_none.mpr hstart,
      Outcome.bind_eq_error.mpr (.inl he)⟩)⟩
  | outOfRange h hn =>
    cases h with
    | given h => exact absurd h.fits hn
    | @ago n hstart h =>
      refine ⟨.outOfRange "timeRange" n, Outcome.bind_eq_error.mpr (.inr
        ⟨none, Parameters.integer?_eq_none.mpr hstart, ?_⟩)⟩
      exact Outcome.bind_eq_error.mpr (.inr ⟨some n, Parameters.integer?_eq_some.mpr h,
        mapM_inRange_eq_error.mpr ⟨n, rfl, hn, rfl⟩⟩)

/-- An end that is not read has a fault, and the rejection tells so. -/
theorem FinishFault.of_finishOf {e : Rejection} (h : Window.finishOf ps = .error e) :
    FinishFault ps ∧ e.ConcernsTime := by
  rw [Window.finishOf] at h
  rcases Outcome.bind_eq_error.mp h with h | ⟨time, htime, h⟩
  · obtain ⟨text, reason, rfl⟩ := Parameters.exists_of_integer?_eq_error h
    exact ⟨.endTime (Parameters.exists_integer?_eq_error.mp ⟨_, h⟩), .garbled (by decide)⟩
  · obtain ⟨n, rfl, hn, rfl⟩ := mapM_inRange_eq_error.mp h
    exact ⟨.outOfRange (.given (Parameters.integer?_eq_some.mp htime)) hn,
      .outOfRange (by decide)⟩

/-- An end with a fault is not read. -/
theorem FinishFault.exists_finishOf (h : FinishFault ps) : ∃ e, Window.finishOf ps = .error e := by
  cases h with
  | endTime h =>
    obtain ⟨e, he⟩ := Parameters.exists_integer?_eq_error.mpr h
    exact ⟨e, Outcome.bind_eq_error.mpr (.inl he)⟩
  | outOfRange h hn =>
    cases h with
    | @given n h =>
      exact ⟨.outOfRange "endTime" n, Outcome.bind_eq_error.mpr (.inr
        ⟨some n, Parameters.integer?_eq_some.mpr h, mapM_inRange_eq_error.mpr ⟨n, rfl, hn, rfl⟩⟩)⟩

namespace Window

/-- A window is read exactly if its bounds are those that the times ask for and fit. -/
theorem read_eq_ok {w : Window} :
    read ps now = .ok w ↔
      (Starts ps now w.start ∧ Fits w.start) ∧ Finishes ps w.finish ∧ Fits w.finish := by
  rw [read, Outcome.bind_eq_ok, ← startOf_eq_ok, ← finishOf_eq_ok]
  constructor
  · rintro ⟨start, hstart, h⟩
    obtain ⟨finish, hfinish, h⟩ := Outcome.bind_eq_ok.mp h
    cases h
    exact ⟨hstart, hfinish⟩
  · rintro ⟨hstart, hfinish⟩
    exact ⟨_, hstart, Outcome.bind_eq_ok.mpr ⟨_, hfinish, rfl⟩⟩

/-- A window is refused exactly if its start or its end has a fault. -/
theorem exists_read_eq_error :
    (∃ e, read ps now = .error e) ↔ StartFault ps now ∨ FinishFault ps := by
  constructor
  · rintro ⟨e, h⟩
    rcases Outcome.bind_eq_error.mp h with h | ⟨start, -, h⟩
    · exact .inl (StartFault.of_startOf h).1
    · exact .inr (FinishFault.of_finishOf (Outcome.bind_pure_eq_error.mp h)).1
  · intro h
    cases hstart : startOf ps now with
    | error e => exact ⟨e, Outcome.bind_eq_error.mpr (.inl hstart)⟩
    | ok start =>
      rcases h with h | h
      · obtain ⟨e, he⟩ := h.exists_startOf
        rw [he] at hstart
        cases hstart
      · obtain ⟨e, he⟩ := h.exists_finishOf
        exact ⟨e, Outcome.bind_eq_error.mpr
          (.inr ⟨start, hstart, Outcome.bind_pure_eq_error.mpr he⟩)⟩

/-- The rejection of a window tells that it is due to a time. -/
theorem concernsTime_of_read {e : Rejection} (h : read ps now = .error e) : e.ConcernsTime := by
  rcases Outcome.bind_eq_error.mp h with h | ⟨start, -, h⟩
  · exact (StartFault.of_startOf h).2
  · exact (FinishFault.of_finishOf (Outcome.bind_pure_eq_error.mp h)).2

end Window

end

end FlowConsole.Request
