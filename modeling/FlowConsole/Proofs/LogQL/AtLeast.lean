import FlowConsole.LogQL.AtLeast
import FlowConsole.Proofs.LogQL.Patterns
import FlowConsole.Proofs.LogQL.Search

/-!
# Numbers that the expression of a lower bound takes

The expression of a bound has a branch for each place of the bound where the digit of a number can
be larger, and one for all longer numbers. A number that a branch takes is larger at the place or,
at the last one, as large, so it is at least the bound (`Place.Takes.le`). A number of as many
digits that is at least the bound is taken at the first place where it differs, by induction on the
digits (`exists_takes`). So the anchored expression is found in the text of a number exactly if the
number is at least the bound, of whatever length both are (`finds_anchored_pattern_iff`).
-/

open FlowConsole.Regex (Denotes)

namespace FlowConsole.LogQL.AtLeast

/-- All characters are digits. -/
def Digits (cs : List Char) : Prop := ∀ c ∈ cs, c.isDigit = true

/-! ### Branches -/

/-- A place of a bound: the digits before it, its own and the digits after it. -/
structure Place where
  before : List Char
  digit : Char
  after : List Char
  deriving DecidableEq, Repr

namespace Place

/-- The digits of the bound. -/
def digits (p : Place) : List Char := p.before ++ p.digit :: p.after

/-- The least digit in the place that makes a number large enough, whatever comes after it. -/
def low (p : Place) : Nat :=
  if p.after.isEmpty then p.digit.toNat - '0'.toNat else p.digit.toNat - '0'.toNat + 1

/-- The branch of the place. -/
def pattern (p : Place) : List Char :=
  p.before ++ digitPattern p.low ++ tailPattern p.before.isEmpty p.after.length

/-- The text has a digit in the place that is large enough, and as many digits after it as the
bound; after the first of several, at least as many. -/
structure Takes (p : Place) (text : List Char) (c : Char) (tail : List Char) : Prop where
  eq : text = p.before ++ c :: tail
  isDigit : c.isDigit = true
  low_le : p.low ≤ c.toNat - '0'.toNat
  digits : Digits tail
  length : tail.length = p.after.length ∨
    p.before = [] ∧ 2 ≤ p.after.length ∧ p.after.length ≤ tail.length

end Place

/-- The places of the digits that come after others, the last one first. -/
def places (before : List Char) : List Char → List Place
  | [] => []
  | d :: after => places (before ++ [d]) after ++ [⟨before, d, after⟩]

/-- The text is a positive digit and at least so many digits after it. -/
def IsLonger (count : Nat) (text : List Char) : Prop :=
  ∃ c tail, text = c :: tail ∧ c.isDigit = true ∧ 1 ≤ c.toNat - '0'.toNat ∧ Digits tail ∧
    count ≤ tail.length

private theorem branch?_eq (before after : List Char) (d : Char) :
    (branch? before d after).toList =
      ([⟨before, d, after⟩].filter fun p => p.low ≤ 9).map Place.pattern := by
  have hbranch : branch? before d after =
      if 9 < (Place.mk before d after).low then none
      else some (Place.mk before d after).pattern := rfl
  rw [hbranch, List.filter_singleton]
  by_cases h : (Place.mk before d after).low ≤ 9
  · simp [h]
  · simp [h, Nat.lt_of_not_le h]

/-- There is a branch for each place where a digit can be large enough. -/
theorem branches_eq (before cs : List Char) :
    branches before cs = ((places before cs).filter fun p => p.low ≤ 9).map Place.pattern := by
  induction cs generalizing before with
  | nil => rfl
  | cons d after ih =>
    rw [branches, places, ih, List.filter_append, List.map_append, branch?_eq]

private theorem eq_of_mem_places {before cs : List Char} {p : Place} (h : p ∈ places before cs) :
    p.digits = before ++ cs := by
  induction cs generalizing before with
  | nil => cases h
  | cons d after ih =>
    rw [places, List.mem_append, List.mem_singleton] at h
    rcases h with h | rfl
    · rw [ih h, List.append_assoc]
      rfl
    · rfl

/-! ### Larger numbers -/

/-- A number that is large enough in a place is at least the bound. -/
theorem Place.Takes.le {p : Place} {text tail : List Char} {c : Char} (h : p.Takes text c tail)
    (hafter : Digits p.after) :
    Nat.ofDigitChars 10 p.digits 0 ≤ Nat.ofDigitChars 10 text 0 := by
  obtain ⟨before, d, after⟩ := p
  have hlow : (if after.isEmpty then d.toNat - '0'.toNat else d.toNat - '0'.toNat + 1) ≤
      c.toNat - '0'.toNat := h.low_le
  have hlength : tail.length = after.length ∨
    before = [] ∧ 2 ≤ after.length ∧ after.length ≤ tail.length := h.length
  have hrest : Nat.ofDigitChars 10 after 0 < 10 ^ after.length := Text.ofDigitChars_lt_pow hafter
  have hpow : 10 ^ after.length ≤ 10 ^ tail.length :=
    Nat.pow_le_pow_right (by decide) (by omega)
  -- from the place on, the number is at least the bound
  have hplace : Nat.ofDigitChars 10 (d :: after) 0 ≤ Nat.ofDigitChars 10 (c :: tail) 0 := by
    rw [Text.ofDigitChars_cons_zero, Text.ofDigitChars_cons_zero]
    split at hlow
    · next hlast =>
      obtain rfl : after = [] := List.isEmpty_iff.mp hlast
      have hdigit := Nat.mul_le_mul hpow hlow
      have hempty : Nat.ofDigitChars 10 [] 0 = 0 := rfl
      omega
    · have hdigit := Nat.mul_le_mul hpow hlow
      rw [Nat.mul_succ] at hdigit
      omega
  rw [h.eq, Place.digits]
  rcases hlength with hlength | ⟨rfl, -, -⟩
  · rw [Text.ofDigitChars_append_zero, Text.ofDigitChars_append_zero, List.length_cons,
      List.length_cons, hlength]
    exact Nat.add_le_add_left hplace _
  · exact hplace

/-- A number of as many digits that is at least the bound is large enough in some place. -/
theorem exists_takes {before cs text : List Char} (hne : cs ≠ []) (hcs : Digits cs)
    (htext : Digits text) (hlength : text.length = cs.length)
    (hle : Nat.ofDigitChars 10 cs 0 ≤ Nat.ofDigitChars 10 text 0) :
    ∃ p ∈ places before cs, p.low ≤ 9 ∧ ∃ c tail, p.Takes (before ++ text) c tail := by
  induction cs generalizing before text with
  | nil => exact absurd rfl hne
  | cons d after ih =>
    obtain ⟨c, tail, rfl⟩ : ∃ c tail, text = c :: tail :=
      List.exists_cons_of_length_eq_add_one hlength
    replace hlength : tail.length = after.length := Nat.succ.inj hlength
    obtain ⟨hc, htail⟩ := List.forall_mem_cons.mp htext
    obtain ⟨hd, hafter⟩ := List.forall_mem_cons.mp hcs
    rw [Text.ofDigitChars_cons_zero, Text.ofDigitChars_cons_zero, hlength] at hle
    have hrest : Nat.ofDigitChars 10 tail 0 < 10 ^ after.length :=
      hlength ▸ Text.ofDigitChars_lt_pow htail
    have hfirst : d.toNat - '0'.toNat ≤ c.toNat - '0'.toNat := by
      by_contra hlt
      have hdigit := Nat.mul_le_mul_left (10 ^ after.length) (Nat.lt_of_not_le hlt)
      rw [Nat.mul_succ] at hdigit
      omega
    by_cases hlow : (Place.mk before d after).low ≤ c.toNat - '0'.toNat
    · exact ⟨⟨before, d, after⟩, List.mem_append_right _ (List.mem_singleton_self _),
        hlow.trans (Text.digit_le_nine hc), c, tail, rfl, hc, hlow, htail, .inl hlength⟩
    · -- the same digit, and not in the last place: the rest decides
      have hlast : after ≠ [] := by
        rintro rfl
        exact hlow hfirst
      have heq : d.toNat - '0'.toNat = c.toNat - '0'.toNat := by
        have hlow : ¬d.toNat - '0'.toNat + 1 ≤ c.toNat - '0'.toNat := by
          rwa [Place.low, if_neg (by simpa using hlast)] at hlow
        omega
      obtain rfl : d = c := Text.digit_inj hd hc heq
      obtain ⟨p, hp, hlow, htakes⟩ : ∃ p ∈ places (before ++ [d]) after,
          p.low ≤ 9 ∧ ∃ c rest, p.Takes (before ++ [d] ++ tail) c rest :=
        ih hlast hafter htail hlength (by omega)
      rw [List.append_assoc] at htakes
      exact ⟨p, List.mem_append_left _ hp, hlow, htakes⟩

/-! ### What the branches denote -/

private theorem isDigit_iff {c : Char} : c.isDigit = true ↔ '0' ≤ c ∧ c ≤ '9' :=
  Char.isDigit_iff_toNat

private theorem range_iff {low : Nat} (h : low < 10) {c : Char} :
    low.digitChar ≤ c ∧ c ≤ '9' ↔ c.isDigit = true ∧ low ≤ c.toNat - '0'.toNat := by
  have hlow : low.digitChar ≤ c ↔ 48 + low ≤ c.toNat := by
    rw [← Nat.toNat_digitChar_of_lt_ten h]
    exact Iff.rfl
  have hzero : '0'.toNat = 48 := rfl
  rw [hlow, Char.isDigit_iff_toNat, hzero]
  have hnine : c ≤ '9' ↔ c.toNat ≤ '9'.toNat := Iff.rfl
  rw [hnine]
  omega

/-- Digits denote themselves. -/
theorem denotes_digits {cs : List Char} (h : Digits cs) : Denotes cs (· = cs) :=
  Atom.denotes_self fun c hc => Atom.charPattern_of_isDigit (h c hc)

/-- The pattern of a digit denotes the digits that are as large. -/
theorem denotes_digitPattern {low : Nat} (h : low ≤ 9) :
    Denotes (digitPattern low) fun text =>
      ∃ c, text = [c] ∧ c.isDigit = true ∧ low ≤ c.toNat - '0'.toNat := by
  rw [digitPattern]
  split
  · next hlow =>
    subst hlow
    have hnine : Digits ['9'] := by simp [Digits]
    refine (denotes_digits hnine).congr fun text => ?_
    constructor
    · rintro rfl
      exact ⟨'9', rfl, rfl, by decide⟩
    · rintro ⟨c, rfl, hc, hle⟩
      rw [Text.digit_inj hc (d := '9') rfl (le_antisymm (Text.digit_le_nine hc) hle)]
  · have hlt : low < 10 := Nat.lt_succ_of_le h
    have hsign : ∀ sign : Char, sign.isDigit = false → low.digitChar ≠ sign := by
      rintro sign hsign rfl
      rw [Nat.isDigit_digitChar, decide_eq_true hlt] at hsign
      cases hsign
    rw [Nat.toDigits_of_lt_base hlt]
    refine (Regex.denotes_range ⟨hsign ']' rfl, hsign '^' rfl⟩ (by decide)).congr fun text => ?_
    simp only [range_iff hlt]

private theorem zero_ne : '0' ≠ ']' ∧ '0' ≠ '^' := by decide

private theorem nine_ne : '9' ≠ ']' := by decide

private theorem denotes_counted {ds : List Char} {bounds : Nat × Option Nat}
    (hbrace : '\x7d' ∉ ds) (hbounds : Regex.braceBounds? ds = some bounds) :
    Denotes ("[0-9]\x7b".toList ++ ds ++ "\x7d".toList) fun text =>
      Digits text ∧ bounds.1 ≤ text.length ∧ ∀ most ∈ bounds.2, text.length ≤ most := by
  have htext : "[0-9]\x7b".toList ++ ds ++ "\x7d".toList =
      ['[', '0', '-', '9', ']'] ++ ('\x7b' :: ds ++ ['\x7d']) := by simp
  rw [htext]
  refine (Regex.denotes_range_repeated zero_ne nine_ne hbrace hbounds).congr fun text => ?_
  simp only [Digits, isDigit_iff]

private theorem digits_toDigits (m : Nat) : Digits (Nat.toDigits 10 m) := fun _ hc =>
  Nat.isDigit_of_mem_toDigits (by decide) (by decide) hc

private theorem brace_not_mem_toDigits (n : Nat) : '\x7d' ∉ Nat.toDigits 10 n := fun hmem =>
  absurd (digits_toDigits n '\x7d' hmem) (by decide)

/-- A least number of digits between braces denotes the texts of at least as many digits. -/
theorem denotes_least (count : Nat) :
    Denotes ("[0-9]\x7b".toList ++ Nat.toDigits 10 count ++ ",\x7d".toList) fun text =>
      Digits text ∧ count ≤ text.length := by
  have hbrace : '\x7d' ∉ Nat.toDigits 10 count ++ [','] := by
    simpa using brace_not_mem_toDigits count
  have htext : "[0-9]\x7b".toList ++ Nat.toDigits 10 count ++ ",\x7d".toList =
      "[0-9]\x7b".toList ++ (Nat.toDigits 10 count ++ [',']) ++ "\x7d".toList := by simp
  rw [htext]
  refine (denotes_counted hbrace (Regex.braceBounds?_toDigits_comma count)).congr fun text => ?_
  simp

/-- A number of digits between braces denotes the texts of as many digits. -/
theorem denotes_exact (count : Nat) :
    Denotes ("[0-9]\x7b".toList ++ Nat.toDigits 10 count ++ "\x7d".toList) fun text =>
      Digits text ∧ text.length = count := by
  refine (denotes_counted (brace_not_mem_toDigits count)
    (Regex.braceBounds?_toDigits count)).congr fun text => and_congr_right fun _ => ?_
  simp only [Option.mem_def, Option.some.injEq, forall_eq']
  omega

/-- The pattern of digits after a place denotes as many digits; after the first of several places,
as many or more. -/
theorem denotes_tailPattern (isFirst : Bool) (count : Nat) :
    Denotes (tailPattern isFirst count) fun text =>
      Digits text ∧ (text.length = count ∨ isFirst = true ∧ 2 ≤ count ∧ count ≤ text.length) := by
  rw [tailPattern]
  split_ifs with hzero hone hfirst
  · refine Regex.denotes_nil.congr fun text => ?_
    constructor
    · rintro rfl
      exact ⟨List.forall_mem_nil _, .inl hzero.symm⟩
    · rintro ⟨-, hlength | ⟨-, htwo, -⟩⟩
      · exact List.length_eq_zero_iff.mp (hlength.trans hzero)
      · omega
  · refine (Regex.denotes_range zero_ne nine_ne).congr fun text => ?_
    simp only [← isDigit_iff]
    constructor
    · rintro ⟨c, rfl, hc⟩
      exact ⟨List.forall_mem_singleton.mpr hc, .inl hone.symm⟩
    · rintro ⟨hdigits, hlength | ⟨-, htwo, -⟩⟩
      · obtain ⟨c, rfl⟩ := List.length_eq_one_iff.mp (hlength.trans hone)
        exact ⟨c, rfl, hdigits c (List.mem_singleton_self c)⟩
      · omega
  · refine (denotes_least count).congr fun text => and_congr_right fun _ => ?_
    constructor
    · exact fun hle => .inr ⟨hfirst, by omega, hle⟩
    · rintro (hlength | ⟨-, -, hle⟩)
      · exact hlength.ge
      · exact hle
  · refine (denotes_exact count).congr fun text => and_congr_right fun _ => ?_
    exact (or_iff_left fun h => hfirst h.1).symm

/-- The branch of a place denotes the texts that are large enough there. -/
theorem denotes_pattern {p : Place} (hlow : p.low ≤ 9) (hbefore : Digits p.before) :
    Denotes p.pattern fun text => ∃ c tail, p.Takes text c tail := by
  refine (((denotes_digits hbefore).append (denotes_digitPattern hlow)).append
    (denotes_tailPattern p.before.isEmpty p.after.length)).congr fun text => ?_
  constructor
  · rintro ⟨-, tail, rfl, ⟨-, -, rfl, rfl, c, rfl, hc, hle⟩, htail, hlength⟩
    rw [List.isEmpty_iff] at hlength
    exact ⟨c, tail, List.append_assoc _ _ _, hc, hle, htail, hlength⟩
  · rintro ⟨c, tail, h⟩
    refine ⟨p.before ++ [c], tail, ?_, ⟨p.before, [c], rfl, rfl, c, rfl, h.isDigit, h.low_le⟩,
      h.digits, ?_⟩
    · rw [h.eq, List.append_assoc]
      rfl
    · rw [List.isEmpty_iff]
      exact h.length

/-- The last branch denotes the longer numbers. -/
theorem denotes_longerBranch (count : Nat) : Denotes (longerBranch count) (IsLonger count) := by
  have hfirst : Denotes ['[', '1', '-', '9', ']'] fun text => ∃ c, text = [c] ∧ '1' ≤ c ∧ c ≤ '9' :=
    Regex.denotes_range (by decide) nine_ne
  have htext : longerBranch count = ['[', '1', '-', '9', ']'] ++
      ("[0-9]\x7b".toList ++ Nat.toDigits 10 count ++ ",\x7d".toList) := by
    unfold longerBranch
    simp
  rw [htext]
  refine (hfirst.append (denotes_least count)).congr fun text => ?_
  have hone : Nat.digitChar 1 = '1' := rfl
  have hrange : ∀ c : Char, '1' ≤ c ∧ c ≤ '9' ↔ c.isDigit = true ∧ 1 ≤ c.toNat - '0'.toNat := by
    intro c
    rw [← hone]
    exact range_iff (by decide)
  simp only [hrange]
  constructor
  · rintro ⟨-, tail, rfl, ⟨c, rfl, hc, hone⟩, htail, hlength⟩
    exact ⟨c, tail, rfl, hc, hone, htail, hlength⟩
  · rintro ⟨c, tail, rfl, hc, hone, htail, hlength⟩
    exact ⟨[c], tail, rfl, ⟨c, rfl, hc, hone⟩, htail, hlength⟩

/-! ### Bounds -/

/-- The branches of a bound without leading zeros, each with what it denotes. -/
def alternatives (cs : List Char) : List (List Char × (List Char → Prop)) :=
  (((places [] cs).filter fun p => p.low ≤ 9).map fun p =>
    (p.pattern, fun text => ∃ c tail, p.Takes text c tail)) ++
    [(longerBranch cs.length, IsLonger cs.length)]

/-- The expression of a bound denotes what one of its branches denotes. -/
theorem denotes_patternOf {cs : List Char} (h : Digits (significant cs)) :
    Denotes (patternOf cs) fun text => ∃ a ∈ alternatives (significant cs), a.2 text := by
  have hbranches : branches [] (significant cs) ++ [longerBranch (significant cs).length] =
      (alternatives (significant cs)).map Prod.fst := by
    rw [alternatives, branches_eq, List.map_append, List.map_map]
    rfl
  rw [patternOf, hbranches]
  refine Regex.denotes_group (by simp [alternatives]) fun a ha => ?_
  rcases List.mem_append.mp ha with ha | ha
  · obtain ⟨p, hp, rfl⟩ := List.mem_map.mp ha
    obtain ⟨hp, hlow⟩ := List.mem_filter.mp hp
    have hdigits : p.before ++ p.digit :: p.after = significant cs := eq_of_mem_places hp
    refine denotes_pattern (of_decide_eq_true hlow) fun c hc => h c ?_
    rw [← hdigits]
    exact List.mem_append_left _ hc
  · rw [List.mem_singleton.mp ha]
    exact denotes_longerBranch _

/-- A bound without leading zeros has a positive first digit, or is a single digit. -/
theorem significant_eq {cs : List Char} (h : Digits cs) :
    ∃ d ds, significant cs = d :: ds ∧ Digits (d :: ds) ∧
      (ds = [] ∨ 1 ≤ d.toNat - '0'.toNat) ∧
      Nat.ofDigitChars 10 (d :: ds) 0 = Nat.ofDigitChars 10 cs 0 := by
  have hvalue := Text.ofDigitChars_dropWhile_zero cs
  rw [significant.eq_def]
  split
  · next hnil =>
    rw [hnil] at hvalue
    exact ⟨'0', [], rfl, by simp [Digits], .inl rfl, hvalue⟩
  · next ds hne =>
    cases hds : cs.dropWhile (· == '0') with
    | nil => exact absurd hds hne
    | cons d ds =>
      have hdigits : Digits (d :: ds) := fun c hc =>
        h c ((List.dropWhile_sublist _).subset (hds ▸ hc))
      have hhead : (d == '0') = false := by
        simpa [hds] using List.head_dropWhile_not (· == '0') (l := cs) (by simp [hds])
      refine ⟨d, ds, rfl, hdigits, .inr ?_, hds ▸ hvalue⟩
      by_contra hzero
      exact beq_eq_false_iff_ne.mp hhead
        (Text.digit_inj (hdigits d List.mem_cons_self) (d := '0') rfl (by omega))

/-- What a branch of a bound takes is at least the bound. -/
theorem le_of_alternative {cs text : List Char} {a : List Char × (List Char → Prop)}
    (hcs : Digits cs) (ha : a ∈ alternatives cs) (htakes : a.2 text) :
    Nat.ofDigitChars 10 cs 0 ≤ Nat.ofDigitChars 10 text 0 := by
  rcases List.mem_append.mp ha with ha | ha
  · obtain ⟨p, hp, rfl⟩ := List.mem_map.mp ha
    obtain ⟨c, tail, htakes⟩ := htakes
    have hp : p.digits = cs := eq_of_mem_places (List.mem_filter.mp hp).1
    have hafter : Digits p.after := fun c hc => by
      refine hcs c ?_
      rw [← hp, Place.digits]
      exact List.mem_append_right _ (List.mem_cons_of_mem _ hc)
    rw [← hp]
    exact htakes.le hafter
  · rw [List.mem_singleton.mp ha] at htakes
    obtain ⟨c, tail, rfl, -, hone, -, hlength⟩ := htakes
    calc Nat.ofDigitChars 10 cs 0 ≤ 10 ^ cs.length := (Text.ofDigitChars_lt_pow hcs).le
      _ ≤ 10 ^ tail.length := Nat.pow_le_pow_right (by decide) hlength
      _ ≤ Nat.ofDigitChars 10 (c :: tail) 0 := Text.pow_le_ofDigitChars hone

/-- What a branch of a bound takes is made of digits. -/
theorem digits_of_alternative {cs text : List Char} {a : List Char × (List Char → Prop)}
    (hcs : Digits cs) (ha : a ∈ alternatives cs) (htakes : a.2 text) :
    Digits text ∧ text ≠ [] := by
  rcases List.mem_append.mp ha with ha | ha
  · obtain ⟨p, hp, rfl⟩ := List.mem_map.mp ha
    obtain ⟨c, tail, htakes⟩ := htakes
    have hp : p.digits = cs := eq_of_mem_places (List.mem_filter.mp hp).1
    rw [htakes.eq]
    refine ⟨List.forall_mem_append.mpr ⟨fun d hd => hcs d ?_,
      List.forall_mem_cons.mpr ⟨htakes.isDigit, htakes.digits⟩⟩, by simp⟩
    rw [← hp, Place.digits]
    exact List.mem_append_left _ hd
  · rw [List.mem_singleton.mp ha] at htakes
    obtain ⟨c, tail, rfl, hc, -, htail, -⟩ := htakes
    exact ⟨List.forall_mem_cons.mpr ⟨hc, htail⟩, List.cons_ne_nil c tail⟩

/-- A number that is at least a bound has as many digits or more, where the bound has no leading
zeros. -/
theorem length_le_of_le {d : Char} {ds : List Char} {m : Nat}
    (hfirst : ds = [] ∨ 1 ≤ d.toNat - '0'.toNat) (hle : Nat.ofDigitChars 10 (d :: ds) 0 ≤ m) :
    (d :: ds).length ≤ (Nat.toDigits 10 m).length := by
  rcases hfirst with rfl | hone
  · exact List.length_pos_iff.mpr Nat.toDigits_ne_nil
  · have hlt : 10 ^ ds.length < 10 ^ (Nat.toDigits 10 m).length :=
      calc 10 ^ ds.length ≤ Nat.ofDigitChars 10 (d :: ds) 0 := Text.pow_le_ofDigitChars hone
        _ ≤ m := hle
        _ = Nat.ofDigitChars 10 (Nat.toDigits 10 m) 0 := Nat.ofDigitChars_ten_toDigits.symm
        _ < 10 ^ (Nat.toDigits 10 m).length := Text.ofDigitChars_lt_pow (digits_toDigits m)
    exact (Nat.pow_lt_pow_iff_right (by decide)).mp hlt

/-- A branch of a bound without leading zeros takes the digits of a number that is at least the
bound. -/
theorem exists_alternative {d : Char} {ds : List Char} {m : Nat} (hdigits : Digits (d :: ds))
    (hfirst : ds = [] ∨ 1 ≤ d.toNat - '0'.toNat) (hle : Nat.ofDigitChars 10 (d :: ds) 0 ≤ m) :
    ∃ a ∈ alternatives (d :: ds), a.2 (Nat.toDigits 10 m) := by
  have hm : Digits (Nat.toDigits 10 m) := digits_toDigits m
  rcases Nat.eq_or_lt_of_le (length_le_of_le hfirst hle) with heq | hlt
  · have hle : Nat.ofDigitChars 10 (d :: ds) 0 ≤ Nat.ofDigitChars 10 (Nat.toDigits 10 m) 0 :=
      hle.trans_eq Nat.ofDigitChars_ten_toDigits.symm
    obtain ⟨p, hp, hlow, htakes⟩ : ∃ p ∈ places [] (d :: ds),
        p.low ≤ 9 ∧ ∃ c tail, p.Takes (Nat.toDigits 10 m) c tail :=
      exists_takes (List.cons_ne_nil d ds) hdigits hm heq.symm hle
    exact ⟨_, List.mem_append_left _ (List.mem_map_of_mem
      (List.mem_filter.mpr ⟨hp, decide_eq_true hlow⟩)), htakes⟩
  · have hpos : 0 < m := by
      rcases Nat.eq_zero_or_pos m with rfl | hpos
      · rw [Nat.toDigits_zero, List.length_cons, List.length_singleton] at hlt
        omega
      · exact hpos
    obtain ⟨c, tail, hmdigits, hone⟩ := Text.toDigits_eq_cons hpos
    rw [hmdigits] at hm hlt ⊢
    rw [Digits, List.forall_mem_cons] at hm
    exact ⟨_, List.mem_append_right _ (List.mem_singleton_self _), c, tail, rfl, hm.1, hone, hm.2,
      Nat.le_of_lt_succ hlt⟩

/-- One of the branches of a bound takes the digits of a number exactly if it is at least the
bound. -/
theorem exists_alternative_iff {cs : List Char} (h : Digits cs) (m : Nat) :
    (∃ a ∈ alternatives (significant cs), a.2 (Nat.toDigits 10 m)) ↔
      Nat.ofDigitChars 10 cs 0 ≤ m := by
  obtain ⟨d, ds, hsignificant, hdigits, hfirst, hvalue⟩ := significant_eq h
  rw [hsignificant, ← hvalue]
  constructor
  · rintro ⟨a, ha, htakes⟩
    exact (le_of_alternative hdigits ha htakes).trans_eq Nat.ofDigitChars_ten_toDigits
  · exact exists_alternative hdigits hfirst

/-- Between the signs of the start and the end, the expression of a bound is found in the texts of
the numbers that are at least the bound, and of no others. -/
theorem finds_anchored_pattern_iff {bound : String} (h : Atom.isDigits bound.toList = true) :
    ∃ p r, pattern bound = .ok p ∧ Regex.read ("^" ++ p ++ "$").toList = some r ∧
      ∀ (k : CaseFolding) (m : Nat),
        r.Finds k (toString m).toList ↔ Nat.ofDigitChars 10 bound.toList 0 ≤ m := by
  have hdigits : Digits bound.toList := by
    rw [Atom.isDigits, Bool.and_eq_true] at h
    exact List.all_eq_true.mp h.2
  obtain ⟨d, ds, hsignificant, hds, -, -⟩ := significant_eq hdigits
  obtain ⟨r, hread, hr⟩ := (denotes_patternOf (hsignificant ▸ hds)).exists_read_anchored
  refine ⟨String.ofList (patternOf bound.toList), r, if_pos h, ?_, fun k m => ?_⟩
  · rw [← hread]
    simp
  · have htext : (toString m).toList = Nat.toDigits 10 m := Nat.toList_repr
    rw [hr, htext, exists_alternative_iff hdigits m]

/-- A bound with a leading zero. -/
theorem finds_anchored_pattern_iff_padded :
    ∃ r, pattern "0123" =
        .ok "(12[3-9]|1[3-9][0-9]|[2-9][0-9]\x7b2,\x7d|[1-9][0-9]\x7b3,\x7d)" ∧
      Regex.read "^(12[3-9]|1[3-9][0-9]|[2-9][0-9]\x7b2,\x7d|[1-9][0-9]\x7b3,\x7d)$".toList =
        some r ∧
      ∀ (k : CaseFolding) (m : Nat), r.Finds k (toString m).toList ↔ 123 ≤ m := by
  have hdigits : Atom.isDigits "0123".toList = true := rfl
  obtain ⟨p, r, hp, hread, hr⟩ := finds_anchored_pattern_iff hdigits
  have hpattern : pattern "0123" =
      .ok "(12[3-9]|1[3-9][0-9]|[2-9][0-9]\x7b2,\x7d|[1-9][0-9]\x7b3,\x7d)" := rfl
  obtain rfl : p = "(12[3-9]|1[3-9][0-9]|[2-9][0-9]\x7b2,\x7d|[1-9][0-9]\x7b3,\x7d)" :=
    Except.ok.inj (hp.symm.trans hpattern)
  exact ⟨r, hpattern, hread, hr⟩

end FlowConsole.LogQL.AtLeast
