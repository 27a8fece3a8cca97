import FlowConsole.Duration
import FlowConsole.Proofs.Text.Characters
import FlowConsole.Proofs.Text.Digits
import Mathlib.Algebra.Order.BigOperators.Group.List

/-!
# What duration literals are

A literal is spelled by its parts, each its digits and a unit, with blanks around all of them
(`Spells`). The reader takes exactly these, the parts one by one (`readLiteral_eq_ok`), and the
checked sum of the parts is their exact sum where that fits in 64 bits and nothing otherwise
(`addParts_eq`). Together they say which texts are durations and of what length
(`parse_eq_ok_iff_spells`).
-/

open FlowConsole.Text (isBlank trimmed)

namespace FlowConsole.Duration

/-- A part as it is written: digits, with any zeros in front, and a unit. -/
@[ext]
structure WrittenPart where
  digits : List Char
  unit : TimeUnit

namespace WrittenPart

/-- There are digits, and nothing else stands before the unit. -/
structure IsProper (p : WrittenPart) : Prop where
  ne_nil : p.digits ≠ []
  isDigit : ∀ c ∈ p.digits, c.isDigit = true

/-- The text of the part. -/
def text (p : WrittenPart) : List Char := p.digits ++ p.unit.symbol

/-- The number that the digits stand for. -/
def count (p : WrittenPart) : Nat := Nat.ofDigitChars 10 p.digits 0

/-- The exact length of the part in nanoseconds. -/
def nanos (p : WrittenPart) : Nat := p.count * p.unit.nanos

/-- What the digits stand for, without how they are written. -/
def value (p : WrittenPart) : Part := ⟨p.count, p.unit⟩

end WrittenPart

/-- The exact length of parts in nanoseconds. -/
def total (parts : List WrittenPart) : Nat := (parts.map WrittenPart.nanos).sum

/-- The text is the parts, of which there is one at least, between blanks. -/
structure Spells (text : String) (parts : List WrittenPart) : Prop where
  ne_nil : parts ≠ []
  proper : ∀ p ∈ parts, p.IsProper
  between : ∃ before after, text.toList = before ++ parts.flatMap WrittenPart.text ++ after ∧
    (∀ c ∈ before, isBlank c = true) ∧ ∀ c ∈ after, isBlank c = true

/-- Every number that adding up the parts comes by fits in 64 bits: the counts, the lengths of the
parts and the sums of the parts so far. -/
structure Fits (parts : List WrittenPart) : Prop where
  count : ∀ p ∈ parts, p.count ≤ Integer.maxInt64
  nanos : ∀ p ∈ parts, p.nanos ≤ Integer.maxInt64
  total : ∀ earlier, earlier <+: parts → total earlier ≤ Integer.maxInt64

/-- A first part adds its worth to the total. -/
@[simp] theorem total_cons (p : WrittenPart) (parts : List WrittenPart) :
    total (p :: parts) = p.nanos + total parts := rfl

/-- A unit is worth a nanosecond at least. -/
theorem TimeUnit.nanos_pos (u : TimeUnit) : 0 < u.nanos := by
  cases u <;> decide

/-- There are no more units than nanoseconds. -/
theorem WrittenPart.count_le_nanos (p : WrittenPart) : p.count ≤ p.nanos :=
  Nat.le_mul_of_pos_right _ p.unit.nanos_pos

/-- A part is no longer than all of them. -/
theorem nanos_le_total {p : WrittenPart} {parts : List WrittenPart} (h : p ∈ parts) :
    p.nanos ≤ total parts :=
  List.le_sum_of_mem (List.mem_map_of_mem h)

/-- The parts so far are no longer than all of them. -/
theorem total_le_total {earlier parts : List WrittenPart} (h : earlier <+: parts) :
    total earlier ≤ total parts :=
  (h.sublist.map _).sum_le_sum fun _ _ => Nat.zero_le _

/-- Everything fits exactly if the sum of all the parts does. -/
theorem fits_iff {parts : List WrittenPart} : Fits parts ↔ total parts ≤ Integer.maxInt64 := by
  constructor
  · exact fun h => h.total parts (List.prefix_refl parts)
  · intro h
    have hnanos : ∀ p ∈ parts, p.nanos ≤ Integer.maxInt64 := fun p hp =>
      (nanos_le_total hp).trans h
    exact ⟨fun p hp => p.count_le_nanos.trans (hnanos p hp), hnanos, fun _ hprefix =>
      (total_le_total hprefix).trans h⟩

/-- The checked sum is the exact sum, as long as that fits in 64 bits. -/
theorem addParts_eq {start : Nat} {parts : List WrittenPart} (hstart : start ≤ Integer.maxInt64) :
    addParts start (parts.map WrittenPart.value) =
      if start + total parts ≤ Integer.maxInt64 then some (start + total parts) else none := by
  induction parts generalizing start with
  | nil => exact (if_pos hstart).symm
  | cons p parts ih =>
    have hvalue : p.value.count * p.value.unit.nanos = p.nanos := rfl
    rw [List.map_cons, addParts, hvalue, total_cons, ← Nat.add_assoc]
    by_cases hp : start + p.nanos ≤ Integer.maxInt64
    · rw [if_pos ⟨by omega, hp⟩, ih hp]
    · rw [if_neg fun h => hp h.2, if_neg (by omega)]

/-! ### The parts of a text -/

private theorem exists_symbol (u : TimeUnit) :
    ∃ c cs, u.symbol = c :: cs ∧ c.isDigit = false := by
  cases u <;> exact ⟨_, _, rfl, by decide⟩

/-- A unit is read where its letters stand, and minutes only where no second letter follows. -/
theorem TimeUnit.read?_eq_some {cs rest : List Char} {u : TimeUnit} :
    TimeUnit.read? cs = some (u, rest) ↔
      cs = u.symbol ++ rest ∧ (u = .minute → rest.head? ≠ some 's') := by
  constructor
  · intro h
    rw [TimeUnit.read?.eq_def] at h
    split at h <;> cases h
    case h_2 hms =>
      refine ⟨rfl, fun _ hs => ?_⟩
      obtain ⟨rest, rfl⟩ := List.head?_eq_some_iff.mp hs
      exact hms rest rfl
    all_goals exact ⟨rfl, nofun⟩
  · rintro ⟨rfl, h⟩
    cases u
    case minute =>
      refine TimeUnit.read?.eq_2 rest fun more hrest => ?_
      exact h rfl (hrest ▸ rfl)
    all_goals rfl

section

variable {p q : WrittenPart} {cs rest more : List Char}

/-- The digits of a part end where its unit begins. -/
theorem WrittenPart.IsProper.takeWhile_append (hp : p.IsProper) (rest : List Char) :
    (p.text ++ rest).takeWhile Char.isDigit = p.digits ∧
      (p.text ++ rest).dropWhile Char.isDigit = p.unit.symbol ++ rest := by
  obtain ⟨c, cs, hsymbol, hc⟩ := exists_symbol p.unit
  have hneg : ¬c.isDigit = true := by rw [hc]; decide
  rw [WrittenPart.text, List.append_assoc, List.takeWhile_append_of_pos hp.isDigit,
    List.dropWhile_append_of_pos hp.isDigit, hsymbol, List.cons_append,
    List.takeWhile_cons_of_neg hneg, List.dropWhile_cons_of_neg hneg, List.append_nil]
  exact ⟨rfl, rfl⟩

/-- The part at the start of a text and what follows it are determined by the text. -/
theorem WrittenPart.append_inj (hp : p.IsProper) (hq : q.IsProper)
    (hrest : p.unit = .minute → rest.head? ≠ some 's')
    (hmore : q.unit = .minute → more.head? ≠ some 's') (h : p.text ++ rest = q.text ++ more) :
    p = q ∧ rest = more := by
  have hdigits : p.digits = q.digits := by
    rw [← (hp.takeWhile_append rest).1, h, (hq.takeWhile_append more).1]
  have hsymbol : p.unit.symbol ++ rest = q.unit.symbol ++ more := by
    rw [← (hp.takeWhile_append rest).2, h, (hq.takeWhile_append more).2]
  have hunit := TimeUnit.read?_eq_some.mpr ⟨hsymbol, hmore⟩
  rw [TimeUnit.read?_eq_some.mpr ⟨rfl, hrest⟩] at hunit
  obtain ⟨hunit, hrest⟩ := Prod.mk.inj (Option.some.inj hunit)
  exact ⟨WrittenPart.ext hdigits hunit, hrest⟩

/-- A part is read where it is written, with a count that fits in 64 bits. -/
theorem readPart_eq_ok {part : Part} :
    readPart cs = .ok (part, rest) ↔
      ∃ p : WrittenPart, p.IsProper ∧ p.count ≤ Integer.maxInt64 ∧ p.value = part ∧
        cs = p.text ++ rest ∧ (p.unit = .minute → rest.head? ≠ some 's') := by
  constructor
  · intro h
    rw [readPart] at h
    split at h
    · cases h
    · next hne =>
      split at h
      · cases h
      · next count hcount =>
        obtain ⟨hdigits, rfl, hle⟩ := (Text.readDigits_eq_ok (Nat.zero_le _)).mp hcount
        split at h
        · cases h
        · next unit after hunit =>
          cases h
          obtain ⟨hsymbol, hminute⟩ := TimeUnit.read?_eq_some.mp hunit
          refine ⟨⟨cs.takeWhile Char.isDigit, unit⟩, ⟨?_, hdigits⟩, hle, rfl, ?_, hminute⟩
          · exact fun hnil => hne (List.isEmpty_iff.mpr hnil)
          · rw [WrittenPart.text, List.append_assoc, ← hsymbol, List.takeWhile_append_dropWhile]
  · rintro ⟨p, hp, hle, rfl, rfl, hminute⟩
    obtain ⟨htake, hdrop⟩ := hp.takeWhile_append rest
    have hcount : Integer.readDigits Integer.maxInt64 .tooLarge 0 p.digits = .ok p.count :=
      (Text.readDigits_eq_ok (Nat.zero_le _)).mpr ⟨hp.isDigit, rfl, hle⟩
    have hne : ¬p.digits.isEmpty = true := fun hnil => hp.ne_nil (List.isEmpty_iff.mp hnil)
    simp only [readPart, htake, hdrop, if_neg hne, hcount,
      TimeUnit.read?_eq_some.mpr ⟨rfl, hminute⟩]
    rfl

end

section

variable {parts : List WrittenPart} {cs : List Char} {values : List Part}

private theorem text_append_ne_nil {p : WrittenPart} (hp : p.IsProper) (rest : List Char) :
    p.text ++ rest ≠ [] := by
  rw [WrittenPart.text, List.append_assoc]
  exact List.append_ne_nil_of_left_ne_nil hp.ne_nil _

/-- Parts begin with a digit, if there are any. -/
theorem head?_flatMap_text (h : ∀ p ∈ parts, p.IsProper) :
    (parts.flatMap WrittenPart.text).head? ≠ some 's' := by
  cases parts with
  | nil => nofun
  | cons p parts =>
    have hp := h p List.mem_cons_self
    obtain ⟨c, digits, hdigits⟩ := List.exists_cons_of_ne_nil hp.ne_nil
    have hc : c.isDigit = true := hp.isDigit c (hdigits ▸ List.mem_cons_self)
    rw [List.flatMap_cons, WrittenPart.text, hdigits]
    rintro hs
    cases hs
    exact absurd hc (by decide)

/-- A text is written in parts in one way only. -/
theorem flatMap_text_inj {others : List WrittenPart} (hparts : ∀ p ∈ parts, p.IsProper)
    (hothers : ∀ p ∈ others, p.IsProper)
    (h : parts.flatMap WrittenPart.text = others.flatMap WrittenPart.text) : parts = others := by
  induction parts generalizing others with
  | nil =>
    cases others with
    | nil => rfl
    | cons q others =>
      rw [List.flatMap_cons] at h
      exact absurd h.symm (text_append_ne_nil (hothers q List.mem_cons_self) _)
  | cons p parts ih =>
    rw [List.forall_mem_cons] at hparts
    cases others with
    | nil =>
      rw [List.flatMap_cons] at h
      exact absurd h (text_append_ne_nil hparts.1 _)
    | cons q others =>
      rw [List.forall_mem_cons] at hothers
      rw [List.flatMap_cons, List.flatMap_cons] at h
      obtain ⟨rfl, hrest⟩ := WrittenPart.append_inj hparts.1 hothers.1
        (fun _ => head?_flatMap_text hparts.2) (fun _ => head?_flatMap_text hothers.2) h
      rw [ih hparts.2 hothers.2 hrest]

/-- The parts can be read: they are proper and their counts fit in 64 bits. -/
def Readable (parts : List WrittenPart) : Prop :=
  ∀ p ∈ parts, p.IsProper ∧ p.count ≤ Integer.maxInt64

/-- The first of parts that can be read is read, up to the others. -/
theorem readPart_of_readable {p : WrittenPart} (h : Readable (p :: parts)) :
    readPart ((p :: parts).flatMap WrittenPart.text) =
      .ok (p.value, parts.flatMap WrittenPart.text) := by
  obtain ⟨⟨hp, hle⟩, hparts⟩ := List.forall_mem_cons.mp h
  exact readPart_eq_ok.mpr ⟨p, hp, hle, rfl, List.flatMap_cons, fun _ =>
    head?_flatMap_text fun q hq => (hparts q hq).1⟩

/-- What is read as parts is the text of parts. -/
theorem exists_of_readParts {fuel : Nat} {rest : List Char}
    (h : readParts fuel cs = (values, rest)) :
    ∃ parts, Readable parts ∧ parts.map WrittenPart.value = values ∧
      cs = parts.flatMap WrittenPart.text ++ rest := by
  induction fuel generalizing cs values with
  | zero =>
    cases h
    exact ⟨[], List.forall_mem_nil _, rfl, rfl⟩
  | succ fuel ih =>
    rw [readParts] at h
    split at h
    · cases h
      exact ⟨[], List.forall_mem_nil _, rfl, rfl⟩
    · next part after hpart =>
      obtain ⟨p, hp, hle, rfl, rfl, -⟩ := readPart_eq_ok.mp hpart
      cases h
      have hmore : readParts fuel after =
        ((readParts fuel after).1, (readParts fuel after).2) := rfl
      obtain ⟨parts, hparts, hvalues, hafter⟩ := ih hmore
      refine ⟨p :: parts, List.forall_mem_cons.mpr ⟨⟨hp, hle⟩, hparts⟩, ?_, ?_⟩
      · rw [List.map_cons, hvalues]
      · rw [List.flatMap_cons, List.append_assoc, ← hafter]

/-- The text of parts is read to its end. -/
theorem readParts_of_readable {fuel : Nat} (h : Readable parts)
    (hfuel : (parts.flatMap WrittenPart.text).length ≤ fuel) :
    readParts fuel (parts.flatMap WrittenPart.text) = (parts.map WrittenPart.value, []) := by
  induction parts generalizing fuel with
  | nil => cases fuel <;> rfl
  | cons p parts ih =>
    obtain ⟨⟨hp, -⟩, hparts⟩ := List.forall_mem_cons.mp h
    have hpos : 0 < p.text.length := by
      rw [← List.append_nil p.text]
      exact List.length_pos_iff.mpr (text_append_ne_nil hp [])
    have hlength : ((p :: parts).flatMap WrittenPart.text).length =
        p.text.length + (parts.flatMap WrittenPart.text).length := by
      rw [List.flatMap_cons, List.length_append]
    cases fuel with
    | zero => omega
    | succ fuel =>
      have hrest := ih hparts (by omega : _ ≤ fuel)
      rw [readParts, readPart_of_readable h]
      simp only [hrest]
      rfl

/-- A text is read as parts exactly if it is made of them. -/
theorem readLiteral_eq_ok :
    readLiteral cs = .ok values ↔
      ∃ parts, parts ≠ [] ∧ Readable parts ∧ parts.map WrittenPart.value = values ∧
        parts.flatMap WrittenPart.text = cs := by
  constructor
  · intro h
    rw [readLiteral] at h
    split at h
    · cases h
    · next part after hpart =>
      obtain ⟨p, hp, hle, rfl, rfl, -⟩ := readPart_eq_ok.mp hpart
      split at h
      · next more hmore =>
        cases h
        obtain ⟨parts, hparts, rfl, rfl⟩ := exists_of_readParts hmore
        refine ⟨p :: parts, List.cons_ne_nil _ _, List.forall_mem_cons.mpr ⟨⟨hp, hle⟩, hparts⟩, rfl,
          ?_⟩
        rw [List.flatMap_cons, List.append_nil]
      · cases h
  · rintro ⟨parts, hne, hparts, rfl, rfl⟩
    obtain ⟨p, parts, rfl⟩ := List.exists_cons_of_ne_nil hne
    have hrest := readParts_of_readable (List.forall_mem_cons.mp hparts).2 (Nat.le_refl _)
    rw [readLiteral, readPart_of_readable hparts]
    simp only [hrest]
    rfl

end

/-! ### Durations of texts -/

/-- The text of parts holds no blank. -/
theorem isBlank_of_mem_flatMap_text {parts : List WrittenPart} (h : ∀ p ∈ parts, p.IsProper)
    {c : Char} (hc : c ∈ parts.flatMap WrittenPart.text) : isBlank c = false := by
  obtain ⟨p, hp, hc⟩ := List.mem_flatMap.mp hc
  rcases List.mem_append.mp hc with hc | hc
  · exact Text.isBlank_of_isDigit ((h p hp).isDigit c hc)
  · have hsymbol : p.unit.symbol.all (fun c => !isBlank c) = true := by
      cases p.unit <;> rfl
    exact (Bool.not_eq_true' _).mp (List.all_eq_true.mp hsymbol c hc)

/-- What is left of a text without its blanks is the text of the parts. -/
theorem Spells.trimmed_eq {text : String} {parts : List WrittenPart} (h : Spells text parts) :
    trimmed text.toList = parts.flatMap WrittenPart.text := by
  obtain ⟨before, after, htext, hbefore, hafter⟩ := h.between
  rw [htext, Text.trimmed_append hbefore (fun c => isBlank_of_mem_flatMap_text h.proper) hafter]

/-- A text is spelled in one way only. -/
theorem Spells.unique {text : String} {parts others : List WrittenPart} (h : Spells text parts)
    (hothers : Spells text others) : parts = others :=
  flatMap_text_inj h.proper hothers.proper (h.trimmed_eq ▸ hothers.trimmed_eq)

/-- Nanoseconds are those of a duration exactly if they are its own number. -/
theorem ofNanos_eq_ok {n : Nat} {d : Duration} : ofNanos n = .ok d ↔ n = d.nanos := by
  rw [ofNanos]
  constructor
  · intro h
    split at h
    · cases h
      exact (Int.toNat_natCast n).symm
    · cases h
  · rintro rfl
    rw [dif_pos ⟨Int.natCast_pos.mpr d.pos, Int.ofNat_le.mpr d.le_max⟩]
    rfl

/-- A text that is a duration is spelled by parts of its length. -/
theorem exists_of_parse {text : String} {d : Duration} (h : parse text = .ok d) :
    ∃ parts, Spells text parts ∧ total parts = d.nanos := by
  rw [parse] at h
  split at h
  · cases h
  · next values hvalues =>
    obtain ⟨parts, hne, hparts, rfl, hcs⟩ := readLiteral_eq_ok.mp hvalues
    rw [addParts_eq (Nat.zero_le _), Nat.zero_add] at h
    obtain ⟨before, after, htext, hblank⟩ := Text.exists_trimmed text.toList
    refine ⟨parts, ⟨hne, fun p hp => (hparts p hp).1, before, after, hcs ▸ htext, hblank⟩, ?_⟩
    split at h
    · cases h
    · next hsum =>
      split at hsum
      · cases hsum
        exact ofNanos_eq_ok.mp h
      · cases hsum

/-- A text that parts of the length of a duration spell is that duration. -/
theorem Spells.parse_eq {text : String} {parts : List WrittenPart} {d : Duration}
    (h : Spells text parts) (hd : total parts = d.nanos) : parse text = .ok d := by
  have hle : total parts ≤ Integer.maxInt64 := hd ▸ d.le_max
  have hread : readLiteral (trimmed text.toList) = .ok (parts.map WrittenPart.value) :=
    readLiteral_eq_ok.mpr ⟨parts, h.ne_nil,
      fun p hp => ⟨h.proper p hp, (fits_iff.mpr hle).count p hp⟩, rfl, h.trimmed_eq.symm⟩
  simp only [parse, hread]
  rw [addParts_eq (Nat.zero_le _), Nat.zero_add, if_pos hle]
  exact ofNanos_eq_ok.mpr hd

/-- A text is a duration exactly if it is spelled by parts, with blanks around all of them only,
whose exact sum is positive and fits in 64 bits. It is then the duration of that sum, and every
number that comes up on the way to it fits. Whatever the parts of a text, the sum up to any of them
is the exact one if it fits, and there is none otherwise. -/
theorem parse_eq_ok_iff_spells (text : String) :
    ((∃ d, parse text = .ok d) ↔
      ∃ parts, Spells text parts ∧ 1 ≤ total parts ∧ total parts ≤ Integer.maxInt64) ∧
    (∀ d parts, parse text = .ok d ∧ Spells text parts → d.nanos = total parts ∧ Fits parts) ∧
    ∀ earlier : List WrittenPart, addParts 0 (earlier.map WrittenPart.value) =
      if total earlier ≤ Integer.maxInt64 then some (total earlier) else none := by
  refine ⟨⟨?_, ?_⟩, ?_, ?_⟩
  · rintro ⟨d, hd⟩
    obtain ⟨parts, hparts, htotal⟩ := exists_of_parse hd
    exact ⟨parts, hparts, htotal ▸ d.pos, htotal ▸ d.le_max⟩
  · rintro ⟨parts, hparts, hpos, hle⟩
    exact ⟨⟨total parts, hpos, hle⟩, hparts.parse_eq rfl⟩
  · rintro d parts ⟨hd, hparts⟩
    obtain ⟨others, hothers, htotal⟩ := exists_of_parse hd
    obtain rfl := hparts.unique hothers
    exact ⟨htotal.symm, fits_iff.mpr (htotal ▸ d.le_max)⟩
  · intro earlier
    rw [addParts_eq (Nat.zero_le _), Nat.zero_add]

example : parse " 01m1ms\t" = .ok ⟨60001000000, by decide, by decide⟩ := by decide +kernel

end FlowConsole.Duration
