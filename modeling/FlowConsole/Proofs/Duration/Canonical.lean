import FlowConsole.Proofs.Duration.Literals
import FlowConsole.Proofs.Text.Integers

/-!
# Canonical texts of durations

The parts of a canonical text are worth the duration less what is shorter than a millisecond
(`total_canonicalParts`). So the text reads back as the duration exactly if that is a whole number
of milliseconds (`parse_render_eq_ok`), which every literal is (`millisecond_dvd_total`).
-/

namespace FlowConsole.Duration

namespace Part

/-- The part as it is written in canonical texts, without zeros in front. -/
def written (p : Part) : WrittenPart := ⟨Nat.toDigits 10 p.count, p.unit⟩

/-- A part is written with digits. -/
theorem proper_written (p : Part) : p.written.IsProper :=
  have hdigits := Integer.isDigits_toDigits p.count
  ⟨hdigits.ne_nil, hdigits.isDigit⟩

/-- The written part is worth what the part is. -/
@[simp] theorem nanos_written (p : Part) : p.written.nanos = p.count * p.unit.nanos := by
  rw [written, WrittenPart.nanos, WrittenPart.count, Nat.ofDigitChars_ten_toDigits]

end Part

/-- The parts of the canonical text. -/
def canonicalParts (d : Duration) : List WrittenPart :=
  (partsOf d.nanos canonicalUnits).map Part.written

/-- The parts in the given units are worth the number without what the last unit leaves. -/
theorem total_partsOf (nanos : Nat) (units : List TimeUnit) :
    total ((partsOf nanos units).map Part.written) +
      units.foldl (fun rest unit => rest % unit.nanos) nanos = nanos := by
  induction units generalizing nanos with
  | nil => exact Nat.zero_add nanos
  | cons unit units ih =>
    have hsplit : nanos / unit.nanos * unit.nanos + nanos % unit.nanos = nanos :=
      Nat.div_add_mod' nanos unit.nanos
    rw [partsOf, List.foldl_cons]
    split
    · next hzero =>
      rw [hzero, Nat.zero_mul, Nat.zero_add] at hsplit
      rw [hsplit]
      exact ih nanos
    · rw [List.map_cons, total_cons, Part.nanos_written, Nat.add_assoc, ih, hsplit]

/-- The canonical parts are worth the duration without what is shorter than a millisecond. -/
theorem total_canonicalParts (d : Duration) :
    total d.canonicalParts + d.nanos % TimeUnit.millisecond.nanos = d.nanos := by
  have hrest : canonicalUnits.foldl (fun rest unit => rest % unit.nanos) d.nanos =
      d.nanos % TimeUnit.millisecond.nanos := by
    simp only [canonicalUnits, List.foldl_cons, List.foldl_nil]
    rw [Nat.mod_mod_of_dvd _ (by decide), Nat.mod_mod_of_dvd _ (by decide),
      Nat.mod_mod_of_dvd _ (by decide)]
  rw [← hrest]
  exact total_partsOf d.nanos canonicalUnits

/-- The canonical text is made of its parts. -/
theorem toList_render (d : Duration) :
    d.render.toList = d.canonicalParts.flatMap WrittenPart.text := by
  rw [render, String.toList_ofList, canonicalParts, List.flatMap_map]
  rfl

/-- Canonical parts are proper. -/
theorem proper_of_mem_canonicalParts {d : Duration} {p : WrittenPart} (h : p ∈ d.canonicalParts) :
    p.IsProper := by
  obtain ⟨p, -, rfl⟩ := List.mem_map.mp h
  exact p.proper_written

/-- The parts that spell a canonical text are its canonical parts. -/
theorem eq_canonicalParts_of_spells {d : Duration} {parts : List WrittenPart}
    (h : Spells d.render parts) : parts = d.canonicalParts := by
  have htrimmed := Text.trimmed_append (List.forall_mem_nil _)
    (fun _ => isBlank_of_mem_flatMap_text fun _ => proper_of_mem_canonicalParts (d := d))
    (List.forall_mem_nil _)
  rw [List.nil_append, List.append_nil, ← toList_render, h.trimmed_eq, toList_render] at htrimmed
  exact flatMap_text_inj h.proper (fun _ => proper_of_mem_canonicalParts) htrimmed

/-- The canonical text spells its canonical parts, if there are any. -/
theorem spells_canonicalParts {d : Duration} (h : d.canonicalParts ≠ []) :
    Spells d.render d.canonicalParts where
  ne_nil := h
  proper _ hp := proper_of_mem_canonicalParts hp
  between := ⟨[], [], by rw [toList_render, List.nil_append, List.append_nil],
    List.forall_mem_nil _, List.forall_mem_nil _⟩

/-- The canonical text of a duration reads back as the duration exactly if that is a whole number of
milliseconds. -/
theorem parse_render_eq_ok {d : Duration} :
    parse d.render = .ok d ↔ TimeUnit.millisecond.nanos ∣ d.nanos := by
  have htotal := d.total_canonicalParts
  rw [Nat.dvd_iff_mod_eq_zero]
  constructor
  · intro h
    obtain ⟨parts, hspells, hparts⟩ := exists_of_parse h
    rw [eq_canonicalParts_of_spells hspells] at hparts
    omega
  · intro h
    have hparts : d.canonicalParts ≠ [] := by
      intro hnil
      have hnone : total d.canonicalParts = 0 := by
        rw [hnil]
        rfl
      have hpos := d.pos
      omega
    exact (spells_canonicalParts hparts).parse_eq (by omega)

/-- Literals are whole numbers of milliseconds. -/
theorem millisecond_dvd_total (parts : List WrittenPart) :
    TimeUnit.millisecond.nanos ∣ total parts := by
  have hunit (u : TimeUnit) : TimeUnit.millisecond.nanos ∣ u.nanos := by
    cases u <;> decide
  induction parts with
  | nil => exact Nat.dvd_zero _
  | cons p parts ih => exact Nat.dvd_add (Nat.dvd_mul_left_of_dvd (hunit p.unit) _) ih

end FlowConsole.Duration
