import Mathlib.Data.List.Basic

/-!
# Regular expressions

What a regular expression matches. An expression may ask for the start or the end of the text, so a
match is one of a part of a text, with what stands before the part and after it. Where letters are
compared regardless of case, which characters differ in case only is for the store to say
(`CaseFolding`); nothing here depends on more than that characters without case are left alone.
-/

namespace FlowConsole

/-! ### Characters -/

/-- Which characters differ in case only. -/
structure CaseFolding where
  Same : Char → Char → Prop
  equivalence : Equivalence Same
  /-- ASCII characters other than letters have no case. -/
  eq_of_caseless : ∀ {c d : Char}, c.toNat < 128 → c.isAlpha = false → Same c d → c = d

namespace CaseFolding

/-- Only letters of the ASCII range have case. -/
def ascii : CaseFolding where
  Same c d := c = d ∨ (c.isAlpha = true ∧ d.isAlpha = true ∧ c.toLower = d.toLower)
  equivalence := by
    refine ⟨fun c => .inl rfl, ?_, ?_⟩
    · rintro c d (rfl | ⟨hc, hd, h⟩)
      · exact .inl rfl
      · exact .inr ⟨hd, hc, h.symm⟩
    · rintro c d e (rfl | ⟨hc, hd, h⟩) (rfl | ⟨hd', he, h'⟩)
      · exact .inl rfl
      · exact .inr ⟨hd', he, h'⟩
      · exact .inr ⟨hc, hd, h⟩
      · exact .inr ⟨hc, he, h.trans h'⟩
  eq_of_caseless := by
    rintro c d - hc (rfl | ⟨ha, -, -⟩)
    · rfl
    · rw [hc] at ha
      cases ha

/-- `d` can be read where `c` is written. -/
def Reads (k : CaseFolding) (ignoreCase : Bool) (c d : Char) : Prop :=
  if ignoreCase then k.Same c d else c = d

/-- A character can be read where it is written. -/
theorem reads_self (k : CaseFolding) (ignoreCase : Bool) (c : Char) : k.Reads ignoreCase c c := by
  rw [Reads]
  split
  · exact k.equivalence.refl c
  · rfl

/-- Where a character without case is written, only that character is read. -/
theorem reads_iff_of_caseless (k : CaseFolding) (ignoreCase : Bool) {c d : Char}
    (hc : c.toNat < 128) (ha : c.isAlpha = false) : k.Reads ignoreCase c d ↔ c = d := by
  constructor
  · rw [Reads]
    split
    · exact k.eq_of_caseless hc ha
    · exact id
  · rintro rfl
    exact k.reads_self ignoreCase c

/-- A character without case is read only where it is written. -/
theorem reads_caseless_iff (k : CaseFolding) (ignoreCase : Bool) {c d : Char}
    (hd : d.toNat < 128) (ha : d.isAlpha = false) : k.Reads ignoreCase c d ↔ c = d := by
  constructor
  · rw [Reads]
    split
    · exact fun h => (k.eq_of_caseless hd ha (k.equivalence.symm h)).symm
    · exact id
  · rintro rfl
    exact k.reads_self ignoreCase c

end CaseFolding

/-- A set of characters. -/
inductive CharSet
  | one (c : Char)
  /-- Every character but the end of a line. -/
  | any
  /-- The characters between the bounds of a range, or all others. -/
  | ranges (negated : Bool) (bounds : List (Char × Char))
  deriving DecidableEq, Repr

/-- The character is read where one of the ranges is written. -/
def InRanges (k : CaseFolding) (ignoreCase : Bool) (c : Char) (bounds : List (Char × Char)) :
    Prop :=
  ∃ d, k.Reads ignoreCase d c ∧ ∃ b ∈ bounds, b.1 ≤ d ∧ d ≤ b.2

/-- The set has the character. -/
def CharSet.Has (k : CaseFolding) (ignoreCase : Bool) (c : Char) : CharSet → Prop
  | .one d => k.Reads ignoreCase d c
  | .any => c ≠ '\n'
  | .ranges negated bounds =>
    if negated then ¬InRanges k ignoreCase c bounds else InRanges k ignoreCase c bounds

/-! ### Expressions -/

/-- A regular expression. -/
inductive Regex
  | empty
  | one (ignoreCase : Bool) (set : CharSet)
  | seq (first second : Regex)
  | alt (first second : Regex)
  /-- At least and, if there is a bound, at most that many times. -/
  | repeated (r : Regex) (least : Nat) (most : Option Nat)
  | start
  | stop
  deriving DecidableEq, Repr

namespace Regex

/-- A relation on parts of texts, `n` times in a row. -/
def Times (R : List Char → List Char → List Char → Prop) :
    Nat → List Char → List Char → List Char → Prop
  | 0, _, text, _ => text = []
  | n + 1, before, text, after =>
    ∃ u v, text = u ++ v ∧ R before u (v ++ after) ∧ Times R n (before ++ u) v after

/-- The expression matches `text` where it stands between `before` and `after`. -/
def Matches (k : CaseFolding) : Regex → List Char → List Char → List Char → Prop
  | .empty, _, text, _ => text = []
  | .one ignoreCase set, _, text, _ => ∃ c, text = [c] ∧ set.Has k ignoreCase c
  | .seq r s, before, text, after =>
    ∃ u v, text = u ++ v ∧ r.Matches k before u (v ++ after) ∧ s.Matches k (before ++ u) v after
  | .alt r s, before, text, after => r.Matches k before text after ∨ s.Matches k before text after
  | .repeated r least most, before, text, after =>
    ∃ n, least ≤ n ∧ (∀ bound ∈ most, n ≤ bound) ∧ Times (r.Matches k) n before text after
  | .start, before, text, _ => text = [] ∧ before = []
  | .stop, _, text, after => text = [] ∧ after = []

/-- The expression matches a text as a whole. -/
def MatchesAll (k : CaseFolding) (r : Regex) (text : List Char) : Prop := r.Matches k [] text []

/-- The expression matches some part of a text. -/
def Finds (k : CaseFolding) (r : Regex) (text : List Char) : Prop :=
  ∃ before part after, text = before ++ part ++ after ∧ r.Matches k before part after

/-- Expressions in order. -/
def sequence : List Regex → Regex
  | [] => .empty
  | r :: rs => .seq r (sequence rs)

/-- One of the expressions. -/
def oneOf : List Regex → Regex
  | [] => .empty
  | [r] => r
  | r :: s :: rs => .alt r (oneOf (s :: rs))

/-- Any text on one line. -/
def anything (ignoreCase : Bool) : Regex := .repeated (.one ignoreCase .any) 0 none

section

variable {k : CaseFolding} {before text after : List Char}

/-- The empty expression matches no text but the empty one. -/
@[simp] theorem matches_empty : Regex.empty.Matches k before text after ↔ text = [] := Iff.rfl

/-- A set matches its characters. -/
@[simp] theorem matches_one {ignoreCase : Bool} {set : CharSet} :
    (Regex.one ignoreCase set).Matches k before text after ↔
      ∃ c, text = [c] ∧ set.Has k ignoreCase c :=
  Iff.rfl

/-- Two expressions in order match texts in order. -/
theorem matches_seq {r s : Regex} :
    (Regex.seq r s).Matches k before text after ↔
      ∃ u v, text = u ++ v ∧ r.Matches k before u (v ++ after) ∧
        s.Matches k (before ++ u) v after :=
  Iff.rfl

/-- One of two expressions matches what either of them does. -/
@[simp] theorem matches_alt {r s : Regex} :
    (Regex.alt r s).Matches k before text after ↔
      r.Matches k before text after ∨ s.Matches k before text after :=
  Iff.rfl

/-- A repeated expression matches texts in order, as many as the bounds allow. -/
theorem matches_repeated {r : Regex} {least : Nat} {most : Option Nat} :
    (Regex.repeated r least most).Matches k before text after ↔
      ∃ n, least ≤ n ∧ (∀ bound ∈ most, n ≤ bound) ∧
        Times (r.Matches k) n before text after :=
  Iff.rfl

/-- The start of a text is matched where nothing stands before. -/
@[simp] theorem matches_start :
    Regex.start.Matches k before text after ↔ text = [] ∧ before = [] :=
  Iff.rfl

/-- The end of a text is matched where nothing stands after. -/
@[simp] theorem matches_stop :
    Regex.stop.Matches k before text after ↔ text = [] ∧ after = [] :=
  Iff.rfl

/-- One of several expressions matches if some of them does. -/
theorem matches_oneOf {rs : List Regex} (h : rs ≠ []) :
    (oneOf rs).Matches k before text after ↔ ∃ r ∈ rs, r.Matches k before text after := by
  induction rs with
  | nil => exact absurd rfl h
  | cons r rs ih =>
    cases rs with
    | nil => simp [oneOf]
    | cons s rs =>
      rw [oneOf, List.exists_mem_cons_iff, ← ih (List.cons_ne_nil s rs), matches_alt]

/-- Expressions in order match parts in order. -/
theorem matches_sequence_append {rs ss : List Regex} :
    (sequence (rs ++ ss)).Matches k before text after ↔
      ∃ u v, text = u ++ v ∧ (sequence rs).Matches k before u (v ++ after) ∧
        (sequence ss).Matches k (before ++ u) v after := by
  induction rs generalizing before text with
  | nil => simp [sequence]
  | cons r rs ih =>
    simp only [List.cons_append, sequence, matches_seq, ih]
    constructor
    · rintro ⟨u, -, rfl, hr, v, w, rfl, hv, hw⟩
      rw [List.append_assoc] at hr hw
      exact ⟨u ++ v, w, by rw [List.append_assoc], ⟨u, v, rfl, hr, hv⟩, hw⟩
    · rintro ⟨-, w, rfl, ⟨u, v, rfl, hr, hv⟩, hw⟩
      rw [← List.append_assoc] at hw
      refine ⟨u, v ++ w, by rw [List.append_assoc], ?_, v, w, rfl, hv, hw⟩
      rw [List.append_assoc]
      exact hr

/-- Characters of a set, a number of times in a row. -/
theorem times_one {ignoreCase : Bool} {set : CharSet} {n : Nat} :
    Times ((Regex.one ignoreCase set).Matches k) n before text after ↔
      text.length = n ∧ ∀ c ∈ text, set.Has k ignoreCase c := by
  induction n generalizing before text with
  | zero =>
    rw [Times, List.length_eq_zero_iff]
    exact (and_iff_left_of_imp fun h => h ▸ List.forall_mem_nil _).symm
  | succ n ih =>
    simp only [Times, ih, matches_one]
    constructor
    · rintro ⟨-, v, rfl, ⟨c, rfl, hc⟩, hlength, hv⟩
      exact ⟨by simp [hlength], List.forall_mem_cons.mpr ⟨hc, hv⟩⟩
    · rintro ⟨hlength, hall⟩
      cases text with
      | nil => cases hlength
      | cons c v =>
        rw [List.forall_mem_cons] at hall
        exact ⟨[c], v, rfl, ⟨c, rfl, hall.1⟩, Nat.succ.inj hlength, hall.2⟩

/-- Any number of characters of a set are matched by the set with a star. -/
theorem matches_star {ignoreCase : Bool} {set : CharSet} :
    (Regex.repeated (.one ignoreCase set) 0 none).Matches k before text after ↔
      ∀ c ∈ text, set.Has k ignoreCase c := by
  simp only [matches_repeated, times_one]
  constructor
  · rintro ⟨n, -, -, -, hall⟩
    exact hall
  · exact fun hall => ⟨text.length, Nat.zero_le _, by simp, rfl, hall⟩

/-- Any text on one line is matched by a dot with a star. -/
theorem matches_anything {ignoreCase : Bool} :
    (anything ignoreCase).Matches k before text after ↔ '\n' ∉ text := by
  rw [anything, matches_star]
  constructor
  · exact fun hall hline => hall '\n' hline rfl
  · exact fun hline c hc h => hline (h ▸ hc)

/-- Between the signs of the start and the end, expressions are found in the texts that they match
as a whole. -/
theorem finds_anchored {rs : List Regex} :
    (sequence ([.start] ++ rs ++ [.stop])).Finds k text ↔ (sequence rs).MatchesAll k text := by
  have hstart : ∀ before part after, (sequence [.start]).Matches k before part after ↔
      part = [] ∧ before = [] := by
    simp [sequence, matches_seq]
  have hstop : ∀ before part after, (sequence [.stop]).Matches k before part after ↔
      part = [] ∧ after = [] := by
    simp [sequence, matches_seq]
  simp only [Finds, matches_sequence_append, hstart, hstop, MatchesAll]
  constructor
  · rintro ⟨-, -, -, rfl, -, -, rfl, ⟨-, part, rfl, ⟨rfl, rfl⟩, h⟩, rfl, rfl⟩
    simpa using h
  · intro h
    exact ⟨[], text, [], by simp, text, [], by simp, ⟨[], text, rfl, ⟨rfl, rfl⟩, by simpa using h⟩,
      rfl, rfl⟩

end

end Regex

end FlowConsole
