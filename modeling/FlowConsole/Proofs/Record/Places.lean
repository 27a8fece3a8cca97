import FlowConsole.Proofs.Record.Basic
import Mathlib.Data.List.Basic

/-!
# Quotes on a line

On a line of compact JSON a quote with a colon after it closes a name, unless it opens a name or a
value that starts with a colon or stands inside one: what comes before it then ends with a
backslash, a colon, a comma or the opening brace. Whatever the names are, texts that end otherwise
lead to fields only (`WrittenField.exists_split_of_line`), and what follows them is the value of the
field, up to a comma or the closing brace.
-/

namespace FlowConsole

/-! ### Quotes -/

/-- A text without quotes ends before the first quote of a longer text. -/
theorem exists_append_of_not_mem {v rest y after : List Char} (hv : '"' ∉ v)
    (h : v ++ rest = y ++ '"' :: after) : ∃ z, y = v ++ z ∧ rest = z ++ '"' :: after := by
  rcases List.append_eq_append_iff.mp h with ⟨z, hy, hrest⟩ | ⟨z, hvz, hz⟩
  · exact ⟨z, hy, hrest⟩
  · cases z with
    | nil => exact ⟨[], by simpa using hvz.symm, by simpa using hz.symm⟩
    | cons c z =>
      rw [List.cons_append, List.cons.injEq] at hz
      rw [hvz, ← hz.1] at hv
      simp at hv

/-- An escaped text ends with the first quote that no backslash comes before. -/
theorem IsEscaped.append_quote_cases {body rest x after : List Char} (hbody : IsEscaped body)
    (hx : x.getLast? ≠ some '\\') (h : body ++ '"' :: rest = x ++ '"' :: after) :
    (x = body ∧ after = rest) ∨ ∃ y, x = body ++ '"' :: y ∧ rest = y ++ '"' :: after := by
  induction hbody generalizing x with
  | nil =>
    cases x with
    | nil => exact .inl ⟨rfl, (List.cons.inj h).2.symm⟩
    | cons d x =>
      obtain ⟨rfl, hrest⟩ := List.cons.inj h
      exact .inr ⟨x, rfl, hrest⟩
  | @plain c cs hquote hescape _ ih =>
    cases x with
    | nil => exact absurd (List.cons.inj h).1 hquote
    | cons d x =>
      obtain ⟨rfl, hrest⟩ := List.cons.inj h
      have hlast : x.getLast? ≠ some '\\' := by
        intro hx'
        apply hx
        simp [List.getLast?_cons, hx']
      rcases ih hlast hrest with ⟨rfl, hafter⟩ | ⟨y, rfl, hy⟩
      · exact .inl ⟨rfl, hafter⟩
      · exact .inr ⟨y, rfl, hy⟩
  | @escape c cs _ ih =>
    cases x with
    | nil => cases (List.cons.inj h).1
    | cons d x =>
      cases x with
      | nil =>
        obtain ⟨rfl, -⟩ := List.cons.inj h
        exact absurd List.getLast?_singleton hx
      | cons e x =>
        simp only [List.cons_append, List.cons.injEq] at h
        obtain ⟨rfl, rfl, hrest⟩ := h
        have hlast : x.getLast? ≠ some '\\' := by
          intro hx'
          apply hx
          simp [List.getLast?_cons, hx']
        rcases ih hlast hrest with ⟨rfl, hafter⟩ | ⟨y, rfl, hy⟩
        · exact .inl ⟨rfl, hafter⟩
        · exact .inr ⟨y, rfl, hy⟩

/-- The signs after which a quote opens a name or a value or stands inside one. -/
def openingSigns : List Char := ['\\', ':', ',', '\x7b']

/-- After the text, a quote closes a name or a value. -/
def EndsPlainly (x : List Char) : Prop := ∀ c ∈ x.getLast?, c ∉ openingSigns

/-- The end of a text ends as the text. -/
theorem EndsPlainly.of_append {u x : List Char} (h : EndsPlainly (u ++ x)) : EndsPlainly x := by
  intro c hc
  apply h
  rw [Option.mem_def] at hc ⊢
  rw [List.getLast?_append, hc, Option.some_or]

/-- A text that ends plainly ends with no backslash. -/
theorem EndsPlainly.ne_backslash {x : List Char} (h : EndsPlainly x) :
    x.getLast? ≠ some '\\' := fun hx => h _ hx List.mem_cons_self

/-- Something comes after a sign that opens a name or a value in a text that ends plainly. -/
theorem EndsPlainly.ne_nil {u x : List Char} {c : Char} (h : EndsPlainly (u ++ c :: x))
    (hc : c ∈ openingSigns) : x ≠ [] := by
  rintro rfl
  exact h c (by simp) hc

/-! ### Texts without escapes -/

/-- The text is written as it is. -/
def Escaping.Keeps (w : Escaping) (s : String) : Prop := ∀ c ∈ s.toList, w.escape c = [c]

private theorem SpellsInJson.of_itself {c : Char} (h : SpellsInJson c [c]) :
    c ≠ '"' ∧ 0x20 ≤ c.toNat := by
  generalize hcs : [c] = cs at h
  cases h with
  | itself hquote _ hcontrol => exact ⟨hquote, hcontrol⟩
  | sign _ => cases hcs
  | unit _ _ => cases hcs
  | units _ _ _ _ _ => cases hcs

/-- A text that is written as it is has no quotes and is on one line. -/
theorem Escaping.Keeps.not_mem {w : Escaping} {s : String} (h : w.Keeps s) :
    '"' ∉ s.toList ∧ '\n' ∉ s.toList := by
  have hplain : ∀ c ∈ s.toList, c ≠ '"' ∧ 0x20 ≤ c.toNat := fun c hc =>
    SpellsInJson.of_itself (h c hc ▸ w.spells c)
  exact ⟨fun hmem => (hplain _ hmem).1 rfl, fun hmem => absurd (hplain _ hmem).2 (by decide)⟩

/-- A character that needs no escape is written as it is where only the required ones are used. -/
theorem Escaping.escape_required {c : Char} (hquote : c ≠ '"') (hescape : c ≠ '\\')
    (hcontrol : 0x20 ≤ c.toNat) : Escaping.required.escape c = [c] := by
  have hne : ∀ d : Char, d.toNat < 0x20 → c ≠ d := by
    rintro d hd rfl
    exact Nat.not_lt.mpr hcontrol hd
  change Json.escapeChar c = [c]
  rw [Json.escapeChar, if_neg hquote, if_neg hescape, if_neg (hne _ (by decide)),
    if_neg (hne _ (by decide)), if_neg (hne _ (by decide)), if_neg (hne _ (by decide)),
    if_neg (hne _ (by decide)), if_neg (Nat.not_lt.mpr hcontrol)]

/-- What is written for a text that is written as it is. -/
theorem Escaping.Keeps.flatMap_escape {w : Escaping} {s : String} (h : w.Keeps s) :
    s.toList.flatMap w.escape = s.toList := by
  rw [List.flatMap_congr h, List.flatMap_singleton']

/-- A text that is written as it is stands between quotes on the line. -/
theorem Escaping.Keeps.written {w : Escaping} {s : String} (h : w.Keeps s) :
    (RecordValue.text s).written w = '"' :: s.toList ++ ['"'] := by
  rw [RecordValue.written, h.flatMap_escape]

/-! ### Values -/

variable {w : Escaping}

/-- A name does not start inside a value. -/
theorem RecordValue.exists_of_append {v : RecordValue} {rest y after : List Char}
    (hy : EndsPlainly y) (hne : y ≠ []) (hrest : rest.head? ≠ some ':')
    (h : v.written w ++ rest = y ++ '"' :: ':' :: after) :
    ∃ z, y = v.written w ++ z ∧ rest = z ++ '"' :: ':' :: after := by
  cases v with
  | text s =>
    cases y with
    | nil => exact absurd rfl hne
    | cons c y =>
      have hlast : y.getLast? ≠ some '\\' := (hy.of_append (u := [c])).ne_backslash
      have htext : (RecordValue.text s).written w ++ rest =
          '"' :: (s.toList.flatMap w.escape ++ '"' :: rest) := by
        simp [written]
      rw [htext] at h
      obtain ⟨rfl, hbody⟩ := List.cons.inj h
      rcases (w.isEscaped s.toList).append_quote_cases hlast hbody with
        ⟨-, hafter⟩ | ⟨z, rfl, hz⟩
      · exact absurd (hafter ▸ rfl) hrest
      · refine ⟨z, ?_, hz⟩
        simp [written]
  | number n =>
    apply exists_append_of_not_mem _ h
    intro hmem
    have hchar := n.chars _ hmem
    cases hchar
  | flag b =>
    apply exists_append_of_not_mem _ h
    cases b <;> simp [written]
  | nothing =>
    apply exists_append_of_not_mem _ h
    simp [written]

/-! ### Fields -/

/-- A field as it stands on a line: what is written for its name, and its value. -/
structure WrittenField where
  name : List Char
  escaped : IsEscaped name
  value : RecordValue

namespace WrittenField

/-- The field with the quotes around its name and the colon. -/
def written (w : Escaping) (p : WrittenField) : List Char :=
  '"' :: p.name ++ '"' :: ':' :: p.value.written w

/-- What follows the value of a field, where the given fields come after it. -/
def closing (w : Escaping) : List WrittenField → List Char
  | [] => ['\x7d']
  | p :: ps => ',' :: p.written w ++ closing w ps

/-- The line of fields. -/
def line (w : Escaping) (ps : List WrittenField) : List Char :=
  '\x7b' :: Text.joinPieces ',' (ps.map (written w)) ++ ['\x7d']

/-- After a value comes a comma or the closing brace. -/
theorem closing_eq (w : Escaping) (ps : List WrittenField) :
    ∃ c cs, closing w ps = c :: cs ∧ (c = ',' ∨ c = '\x7d') := by
  cases ps with
  | nil => exact ⟨_, _, rfl, .inr rfl⟩
  | cons p ps => exact ⟨_, _, rfl, .inl rfl⟩

private theorem head_closing (w : Escaping) (ps : List WrittenField) :
    (closing w ps).head? ≠ some ':' := by
  obtain ⟨c, cs, hclosing, rfl | rfl⟩ := closing_eq w ps
  · simp [hclosing]
  · simp [hclosing]

/-- The line of fields with a first one is that field and what comes after it. -/
theorem line_cons (w : Escaping) (p : WrittenField) (ps : List WrittenField) :
    line w (p :: ps) = '\x7b' :: (p.written w ++ closing w ps) := by
  have hjoin : Text.joinPieces ',' ((p :: ps).map (written w)) ++ ['\x7d'] =
      p.written w ++ closing w ps := by
    induction ps generalizing p with
    | nil => rfl
    | cons q ps ih =>
      rw [List.map_cons, List.map_cons, Text.joinPieces, closing, List.cons_append, ← ih q,
        List.append_assoc]
      rfl
  rw [line, List.cons_append, hjoin]

-- Where a quote and a colon stand in a field or after it, they follow its name, or they stand after
-- it.
private theorem written_cases {p : WrittenField} {rest x after : List Char} (hx : EndsPlainly x)
    (hne : x ≠ []) (hrest : rest.head? ≠ some ':')
    (h : p.written w ++ rest = x ++ '"' :: ':' :: after) :
    (x = '"' :: p.name ∧ after = p.value.written w ++ rest) ∨
      ∃ z, x = p.written w ++ z ∧ rest = z ++ '"' :: ':' :: after := by
  have hfield : p.written w ++ rest =
      '"' :: (p.name ++ '"' :: (':' :: (p.value.written w ++ rest))) := by
    simp [written]
  rw [hfield] at h
  obtain ⟨c, x, rfl⟩ := List.exists_cons_of_ne_nil hne
  obtain ⟨rfl, hname⟩ := List.cons.inj h
  have hlast : x.getLast? ≠ some '\\' := (hx.of_append (u := ['"'])).ne_backslash
  rcases p.escaped.append_quote_cases hlast hname with ⟨rfl, hafter⟩ | ⟨y, rfl, hy⟩
  · exact .inl ⟨rfl, (List.cons.inj hafter).2⟩
  · right
    cases y with
    | nil => cases (List.cons.inj hy).1
    | cons c y =>
      obtain ⟨rfl, hvalue⟩ := List.cons.inj hy
      have hends : EndsPlainly ('"' :: p.name ++ ['"'] ++ ':' :: y) := by simpa using hx
      have hy : EndsPlainly y := by
        apply EndsPlainly.of_append (u := '"' :: p.name ++ ['"'] ++ [':'])
        simpa using hx
      obtain ⟨z, rfl, hz⟩ := RecordValue.exists_of_append hy (hends.ne_nil (by decide)) hrest hvalue
      refine ⟨z, ?_, hz⟩
      simp [written]

private theorem exists_split_of_written {p : WrittenField} {ps : List WrittenField}
    {x after : List Char} (hx : EndsPlainly x) (hne : x ≠ [])
    (h : p.written w ++ closing w ps = x ++ '"' :: ':' :: after) :
    ∃ pre q post start, p :: ps = pre ++ q :: post ∧ x = start ++ '"' :: q.name ∧
      after = q.value.written w ++ closing w post := by
  induction ps generalizing p x with
  | nil =>
    rcases written_cases hx hne (head_closing w []) h with ⟨rfl, rfl⟩ | ⟨z, -, hz⟩
    · exact ⟨[], p, [], [], rfl, rfl, rfl⟩
    · have hlength : 1 = z.length + (after.length + 1 + 1) := by
        simpa [closing] using congrArg List.length hz
      omega
  | cons q ps ih =>
    rcases written_cases hx hne (head_closing w (q :: ps)) h with ⟨rfl, rfl⟩ | ⟨z, rfl, hz⟩
    · exact ⟨[], p, q :: ps, [], rfl, rfl, rfl⟩
    · cases z with
      | nil => cases hz
      | cons c z =>
        obtain ⟨rfl, hrest⟩ := List.cons.inj hz
        have hends : EndsPlainly z := by
          apply EndsPlainly.of_append (u := p.written w ++ [','])
          simpa using hx
        obtain ⟨pre, q', post, start, hps, rfl, hafter⟩ :=
          ih hends (hx.ne_nil (by decide)) hrest
        exact ⟨p :: pre, q', post, p.written w ++ ',' :: start, by rw [hps]; rfl, by simp, hafter⟩

/-- Where a quote and a colon stand on a line after a text that ends plainly, the text ends with
the name of a field, and the value of the field follows. -/
theorem exists_split_of_line {ps : List WrittenField} {x after : List Char} (hx : EndsPlainly x)
    (h : line w ps = x ++ '"' :: ':' :: after) :
    ∃ pre p post start, ps = pre ++ p :: post ∧ x = start ++ '"' :: p.name ∧
      after = p.value.written w ++ closing w post := by
  cases ps with
  | nil =>
    have hquote : '"' ∈ line w [] := h ▸ List.mem_append_right x List.mem_cons_self
    simp [line, Text.joinPieces] at hquote
  | cons p ps =>
    rw [line_cons] at h
    cases x with
    | nil => cases (List.cons.inj h).1
    | cons c x =>
      obtain ⟨rfl, hfield⟩ := List.cons.inj h
      obtain ⟨pre, q, post, start, hps, rfl, hafter⟩ :=
        exists_split_of_written (hx.of_append (u := ['\x7b']))
          (hx.ne_nil (u := []) (by decide)) hfield
      exact ⟨pre, q, post, '\x7b' :: start, hps, rfl, hafter⟩

/-- A field stands on the line, between what comes before its name and what comes after its
value. -/
theorem exists_line_append (w : Escaping) (pre : List WrittenField) (p : WrittenField)
    (post : List WrittenField) :
    ∃ start, line w (pre ++ p :: post) = start ++ (p.written w ++ closing w post) := by
  have hclosing : ∀ pre : List WrittenField, ∃ start,
      closing w (pre ++ p :: post) = start ++ (p.written w ++ closing w post) := by
    intro pre
    induction pre with
    | nil => exact ⟨[','], rfl⟩
    | cons q pre ih =>
      obtain ⟨start, hstart⟩ := ih
      refine ⟨',' :: q.written w ++ start, ?_⟩
      rw [List.cons_append, closing, hstart, List.append_assoc]
  cases pre with
  | nil => exact ⟨['\x7b'], line_cons w p post⟩
  | cons q pre =>
    obtain ⟨start, hstart⟩ := hclosing pre
    refine ⟨'\x7b' :: q.written w ++ start, ?_⟩
    rw [List.cons_append, line_cons, hstart]
    simp

/-! ### Keys -/

/-- Without quotes in either, a key is found where a name ends, from the opening quote or not,
exactly if it is the name or the name ends with it. -/
theorem suffix_quote_cons_iff {strict : Bool} {key name : List Char} (hkey : '"' ∉ key)
    (hname : '"' ∉ name) :
    (if strict then ['"'] else []) ++ key <:+ '"' :: name ↔
      if strict then name = key else key <:+ name := by
  rw [List.suffix_cons_iff]
  cases strict with
  | false =>
    rw [if_neg Bool.false_ne_true, if_neg Bool.false_ne_true, List.nil_append]
    exact or_iff_right fun h => hkey (h ▸ List.mem_cons_self)
  | true =>
    rw [if_pos rfl, if_pos rfl, List.singleton_append, List.cons.injEq, and_iff_right rfl,
      or_iff_left fun h => hname (h.subset List.mem_cons_self)]
    exact eq_comm

variable {ps : List WrittenField} {strict : Bool} {key before after : List Char}

-- A key without quotes, from an opening quote or not, that a text ends with where a name ends is
-- found after the opening quote of the name.
private theorem suffix_of_append_eq {name start : List Char} (hkey : '"' ∉ key)
    (h : before ++ ((if strict then ['"'] else []) ++ key) = start ++ '"' :: name) :
    (if strict then ['"'] else []) ++ key <:+ '"' :: name := by
  rcases List.suffix_or_suffix_of_suffix ⟨before, h⟩ (List.suffix_append start _) with h | ⟨u, hu⟩
  · exact h
  · cases strict with
    | false =>
      rw [if_neg Bool.false_ne_true, List.nil_append] at hu
      rw [← hu] at hkey
      simp at hkey
    | true =>
      rw [if_pos rfl, List.singleton_append] at hu ⊢
      cases u with
      | nil =>
        rw [← hu]
        exact List.suffix_refl _
      | cons c u =>
        rw [← (List.cons.inj hu).2] at hkey
        simp at hkey

private theorem endsPlainly_of_key (hkey : ∀ c ∈ key, c ∉ openingSigns)
    (hne : strict = true ∨ key ≠ []) (before : List Char) :
    EndsPlainly (before ++ ((if strict then ['"'] else []) ++ key)) := by
  intro c hc
  rw [Option.mem_def, ← List.append_assoc, List.getLast?_append, Option.or_eq_some_iff] at hc
  rcases hc with hc | ⟨hnil, hc⟩
  · exact hkey c (List.mem_of_getLast? hc)
  · have hstrict : strict = true := hne.resolve_right (not_not_intro (by simpa using hnil))
    rw [if_pos hstrict, List.getLast?_append, List.getLast?_singleton, Option.some_or] at hc
    obtain rfl : '"' = c := Option.some.inj hc
    decide

/-- Where a key, a quote and a colon stand on a line, the key is found where the name of a field
ends, and the value of the field follows. -/
theorem exists_split_of_key (hkey : ∀ c ∈ key, c ≠ '"' ∧ c ∉ openingSigns)
    (hne : strict = true ∨ key ≠ [])
    (h : line w ps = before ++ ((if strict then ['"'] else []) ++ key) ++ '"' :: ':' :: after) :
    ∃ pre p post, ps = pre ++ p :: post ∧
      (if strict then ['"'] else []) ++ key <:+ '"' :: p.name ∧
        after = p.value.written w ++ closing w post := by
  have hends := endsPlainly_of_key (fun c hc => (hkey c hc).2) hne before
  obtain ⟨pre, p, post, start, hps, hplace, hafter⟩ := exists_split_of_line hends h
  exact ⟨pre, p, post, hps, suffix_of_append_eq (fun hmem => (hkey _ hmem).1 rfl) hplace, hafter⟩

/-- The value of a field stands on the line after whatever its name, after the opening quote, ends
with. -/
theorem exists_line_of_suffix (w : Escaping) (pre : List WrittenField) {p : WrittenField}
    (post : List WrittenField) {text : List Char} (h : text <:+ '"' :: p.name) :
    ∃ before, line w (pre ++ p :: post) =
      before ++ text ++ '"' :: ':' :: (p.value.written w ++ closing w post) := by
  obtain ⟨start, hline⟩ := exists_line_append w pre p post
  obtain ⟨u, hu⟩ := h
  refine ⟨start ++ u, ?_⟩
  rw [hline, written, ← hu]
  simp

end WrittenField

end FlowConsole
