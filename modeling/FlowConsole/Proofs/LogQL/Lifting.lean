import FlowConsole.Proofs.LogQL.Alternatives
import FlowConsole.Proofs.LogQL.Labels
import FlowConsole.Proofs.LogQL.Numbers
import FlowConsole.Proofs.LogQL.Texts

/-!
# Negated line filters after the `json` stage

Fields without a value are left out of records. A negated line filter asks for the field as well as
for the absence of the values, so it rejects a record without the field. The clause that is lifted
from it after the `json` stage compares labels only, and there a missing field is a label with an
empty text: the clause keeps a record without the field unless it excludes the empty text
(`FlowQuery.keeps_lifted_iff`, `FlowQuery.keeps_lifted_missing`). On records that have the field the
two agree, where the store reads the text of the line and the text of the label as the same value.
-/

open FlowConsole.Text (Consists)
open FlowConsole.Regex (DenotesFrom)

namespace FlowConsole

namespace LogQL

variable {store : LabelStore} {r : FlowRecord}

/-! ### Stated values -/

/-- Several values of a negated line filter are stated by one expression, in groups. -/
theorem Recovered.toLabels_several {α : Type} {key : String} {value : α → Recovered} {a b : α}
    {as : List α} (hname : (value a).name = key) :
    toLabels true ((a :: b :: as).map value) =
      [.regex key
        (Text.join "|" ((a :: b :: as).map fun c => "(" ++ (value c).value ++ ")")) true] := by
  rw [List.map_cons, List.map_cons, toLabels, if_pos rfl, hname, ← List.map_cons, ← List.map_cons,
    List.map_map]
  · rfl
  · exact fun h => List.cons_ne_nil _ _ h

namespace LineFilter

open Atom (FitsWritten lineText lineNumber)

variable {f : LineFilter} {key : String} {atoms : List String} {kind : LineKind} {strict : Bool}
  {value : String → LineValue}

private theorem stated_of_values (hne : atoms ≠ [])
    (h : ofAtoms key atoms kind strict true false = .ok f) (hvalues : f.values = atoms.map value) :
    f.stated = Recovered.toLabels true (atoms.map fun atom => f.own (value atom)) := by
  obtain ⟨-, -, -, hnegated, -⟩ := ofAtoms_eq_ok.mp h
  rw [stated, all_atLeast_of_ofAtoms h (values_ne_nil_of_ofAtoms hne h),
    if_neg Bool.false_ne_true, hnegated, hvalues, List.map_map]
  rfl

private theorem keepsText_regex {pattern text : String} :
    (LabelFilter.regex key pattern true).KeepsText store text ↔ ¬store.Matches pattern text :=
  Iff.rfl

/-- A negated line filter for texts is stated by one filter, which keeps the texts that fit nothing
that is written for its atoms. -/
theorem exists_stated_texts (hne : atoms ≠ [])
    (h : ofAtoms key atoms .text strict true false = .ok f) :
    ∃ l, f.stated = [l] ∧ l.key = f.key ∧ ∀ text, l.KeepsText store text ↔
      ∀ atom ∈ atoms, ¬FitsWritten store.folding false atom text.toList := by
  rw [stated_of_values hne h (values_ofAtoms Atom.of_ofAtom_text h)]
  cases atoms with
  | nil => exact absurd rfl hne
  | cons atom atoms =>
    cases atoms with
    | nil =>
      refine ⟨.regex f.key (lineText atom).written true, ?_, rfl, fun text => ?_⟩
      · have hform : (lineText atom).form ≠ .number := by
          rw [lineText]
          split <;> simp
        simp [Recovered.toLabels, Recovered.toLabel, own, hform]
      · rw [keepsText_regex, matches_iff_of_denotesFrom (Atom.denotesFrom_written false atom),
          List.forall_mem_singleton]
    | cons next atoms =>
      refine ⟨_, Recovered.toLabels_several rfl, rfl, fun text => ?_⟩
      have hmatches := @matches_groups_iff String (fun atom => (lineText atom).written)
        Atom.ignoresCaseAfter (fun ignoreCase atom k => FitsWritten k ignoreCase atom) _ hne
        (fun ignoreCase atom _ => Atom.denotesFrom_written ignoreCase atom) store.toEngine text
      rw [keepsText_regex]
      refine (not_congr hmatches).trans ?_
      simp only [not_exists, not_and]

private theorem isDigits_toString (m : Nat) : Atom.isDigits (toString m).toList = true := by
  have hdigits : (toString m).toList = Nat.toDigits 10 m := Nat.toList_repr
  rw [Atom.isDigits, hdigits, Bool.and_eq_true, Bool.not_eq_true', List.isEmpty_eq_false_iff]
  exact ⟨Nat.toDigits_ne_nil, List.all_eq_true.mpr fun _ hc =>
    Nat.isDigit_of_mem_toDigits (by decide) (by decide) hc⟩

private theorem caseless_of_isDigit {c : Char} (h : c.isDigit = true) :
    c ≠ '*' ∧ c.toNat < 128 ∧ c.isAlpha = false :=
  Text.digit_cases h (by decide)

private theorem denotesFrom_lineNumber (ignoreCase : Bool) {atom : String} {m : Nat}
    (h : Atom.unquoted atom = toString m) :
    DenotesFrom ignoreCase (lineNumber false atom).written.toList
      (fun _ text => text = (Atom.unquoted atom).toList) ignoreCase := by
  have hwritten : (lineNumber false atom).written.toList =
      (Atom.unquoted atom).toList.flatMap Atom.charPattern := by
    simp [lineNumber, LineValue.written, LineValue.pattern, Atom.pattern]
  rw [hwritten]
  refine (Atom.denotesFrom_chars ignoreCase _).congr fun k text => ?_
  have hdigits := isDigits_toString m
  rw [← h, Atom.isDigits, Bool.and_eq_true, List.all_eq_true] at hdigits
  exact Atom.fits_iff_eq_of_caseless fun c hc => caseless_of_isDigit (hdigits.2 c hc)

/-- A negated line filter for whole numbers is stated by one filter, which keeps the numbers that
are none of its atoms. -/
theorem exists_stated_numbers (hne : atoms ≠ [])
    (h : ofAtoms key atoms .numeric strict true false = .ok f)
    (hatoms : ∀ atom ∈ atoms, ∃ m : Nat, m ≤ 2 ^ 53 ∧ Atom.unquoted atom = toString m) :
    ∃ l, f.stated = [l] ∧ l.key = f.key ∧ ∀ n : Int, n.natAbs ≤ 2 ^ 53 →
      (l.KeepsText store (toString n) ↔ ∀ atom ∈ atoms, toString n ≠ Atom.unquoted atom) := by
  rw [stated_of_values hne h
    (values_ofAtoms (fun hatom => (Atom.of_ofAtom_numeric hatom).1) h)]
  cases atoms with
  | nil => exact absurd rfl hne
  | cons atom atoms =>
    cases atoms with
    | nil =>
      obtain ⟨m, hm, hatom⟩ := hatoms atom List.mem_cons_self
      have hown : f.own (lineNumber false atom) = ⟨f.key, toString m, true⟩ := by
        rw [lineNumber, if_neg Bool.false_ne_true, hatom,
          Atom.pattern_of_isDigits (isDigits_toString m)]
        rfl
      refine ⟨.number f.key (toString m) true, ?_, rfl, fun n hn => ?_⟩
      · simp only [List.map_cons, List.map_nil, hown]
        rfl
      · rw [List.forall_mem_singleton, hatom]
        have hbound : (m : Int).natAbs ≤ 2 ^ 53 := hm
        have htexts := Integer.toString_inj (fitsInt64_of_exact hn) (fitsInt64_of_exact hbound)
        exact (store.keeps_notEqual hbound hn).trans (not_congr htexts.symm)
    | cons next atoms =>
      refine ⟨_, Recovered.toLabels_several rfl, rfl, fun n _ => ?_⟩
      have hmatches := @matches_groups_iff String (fun atom => (lineNumber false atom).written)
        (fun ignoreCase _ => ignoreCase) (fun _ atom _ text => text = (Atom.unquoted atom).toList) _
        hne
        (fun ignoreCase atom ha => (hatoms atom ha).elim fun _ hatom =>
          denotesFrom_lineNumber ignoreCase hatom.2)
        store.toEngine (toString n)
      rw [keepsText_regex]
      refine (not_congr hmatches).trans ?_
      simp only [not_exists, not_and, String.toList_inj]

/-! ### Negated line filters -/

variable {w : Escaping} {l : LabelFilter}

private theorem keeps_negated_iff {excluded : RecordField → Prop}
    (hkey : Consists Text.isWord f.key) (hstrict : f.strict = true ∨ f.key ≠ "")
    (hnegated : f.negated = true) (hempty : f.allowEmpty = false) (hvalues : f.values ≠ [])
    (hfinds : store.Finds f.body (r.line w) ↔
      ∃ e ∈ r, e.IsNamed f.strict f.key ∧ excluded e)
    (hl : ∀ e ∈ r, e.IsNamed f.strict f.key →
      (l.KeepsText store e.value.label ↔ ¬excluded e)) :
    f.Keeps store.toSearcher (r.line w) ↔ (∃ e ∈ r, e.IsNamed f.strict f.key) ∧
      ∀ e ∈ r, e.IsNamed f.strict f.key → l.KeepsText store e.value.label := by
  rw [keeps_iff_of_negated hnegated hempty hvalues, finds_keyPattern_iff hkey hstrict, hfinds]
  refine and_congr_right fun _ => ?_
  constructor
  · exact fun hnone e he hnamed =>
      (hl e he hnamed).mpr fun hexcluded => hnone ⟨e, he, hnamed, hexcluded⟩
  · rintro hall ⟨e, he, hnamed, hexcluded⟩
    exact (hl e he hnamed).mp (hall e he hnamed) hexcluded

/-- A negated line filter for texts keeps the line of a record exactly if the key names a field and
the filter that states it keeps the texts of all such fields. -/
theorem exists_keeps_texts (hkey : Consists Text.isWord key)
    (hstrict : strict = true ∨ key ≠ "") (hne : atoms ≠ [])
    (hatoms : ∀ atom ∈ atoms, Atom.StarsLast atom)
    (hquotes : ∀ atom ∈ atoms, '"' ∉ (Atom.unquoted atom).toList)
    (hcased : Atom.CasedFirst store.folding atoms)
    (h : ofAtoms key atoms .text strict true false = .ok f)
    (hr : r.HoldsTexts store.folding w strict key) :
    ∃ l, f.stated = [l] ∧ l.key = key ∧
      (f.Keeps store.toSearcher (r.line w) ↔ (∃ e ∈ r, e.IsNamed strict key) ∧
        ∀ e ∈ r, e.IsNamed strict key → l.KeepsText store e.value.label) := by
  have hvalues := values_ne_nil_of_ofAtoms hne h
  have hfinds := finds_texts_iff hkey hstrict hne hatoms hquotes h hr
  obtain ⟨-, rfl, rfl, hnegated, hempty⟩ := ofAtoms_eq_ok.mp h
  obtain ⟨l, hl, hlkey, hkeeps⟩ := exists_stated_texts hne h
  refine ⟨l, hl, hlkey, keeps_negated_iff hkey hstrict hnegated hempty hvalues hfinds ?_⟩
  intro e he hnamed
  obtain ⟨s, hs, hwritten⟩ := hr.texts e he hnamed
  obtain ⟨hquote, hline⟩ := hwritten.not_mem
  have hselects : Atom.SelectsAny store.folding false atoms s ↔
      ∃ atom ∈ atoms, Atom.Selects store.folding false atom s :=
    Atom.selectsAny_iff.trans (or_iff_left_of_imp (Atom.exists_selects_of_selectsLate hcased))
  have htext : e.value.label = s := by rw [hs, RecordValue.label]
  rw [htext, hkeeps]
  simp only [Atom.fitsWritten_iff hquote hline, hs, RecordValue.text.injEq, exists_eq_left',
    hselects, not_exists, not_and]

/-- A negated line filter for whole numbers keeps the line of a record exactly if the key names a
field and the filter that states it keeps the numbers of all such fields. -/
theorem exists_keeps_numbers (hkey : Consists Text.isWord key)
    (hstrict : strict = true ∨ key ≠ "") (hne : atoms ≠ [])
    (hatoms : ∀ atom ∈ atoms, ∃ m : Nat, m ≤ 2 ^ 53 ∧ Atom.unquoted atom = toString m)
    (h : ofAtoms key atoms .numeric strict true false = .ok f)
    (hr : ∀ e ∈ r, e.IsNamed strict key →
      ∃ n : Int, n.natAbs ≤ 2 ^ 53 ∧ e.value = .number (.ofInt n)) :
    ∃ l, f.stated = [l] ∧ l.key = key ∧
      (f.Keeps store.toSearcher (r.line w) ↔ (∃ e ∈ r, e.IsNamed strict key) ∧
        ∀ e ∈ r, e.IsNamed strict key → l.KeepsText store e.value.label) := by
  have hvalues := values_ne_nil_of_ofAtoms hne h
  have hfinds : store.Finds f.body (r.line w) ↔ _ := finds_numbers_iff hkey hstrict hne h
  obtain ⟨-, rfl, rfl, hnegated, hempty⟩ := ofAtoms_eq_ok.mp h
  obtain ⟨l, hl, hlkey, hkeeps⟩ := exists_stated_numbers hne h hatoms
  refine ⟨l, hl, hlkey, keeps_negated_iff hkey hstrict hnegated hempty hvalues hfinds ?_⟩
  intro e he hnamed
  obtain ⟨n, hn, hvalue⟩ := hr e he hnamed
  have htext : e.value.label = toString n := by rw [hvalue]; rfl
  rw [htext, hkeeps n hn]
  simp only [hvalue, RecordValue.number.injEq, exists_eq_left', Atom.TakesNumber,
    Bool.false_eq_true, if_false, String.toList_inj, not_exists, not_and]
  rfl

end LineFilter

end LogQL

/-! ### Records without a field -/

open LogQL (LineKind)
open LogQL.FlowQuery (fieldsOf)

/-- The match says the same of lines as of labels: the stars of its texts come last and the texts
that have case come first, and its numbers are whole, written without zeros in front, and held
exactly by doubles. -/
structure Filter.Match.Comparable (k : CaseFolding) (c : Catalog) (m : Filter.Match) : Prop where
  key : Consists Text.isWord m.key
  quotes : ∀ atom ∈ m.atoms, '"' ∉ (LogQL.Atom.unquoted atom).toList
  texts : LineKind.of c m.key = .text →
    (∀ atom ∈ m.atoms, LogQL.Atom.StarsLast atom) ∧ LogQL.Atom.CasedFirst k m.atoms
  numbers : LineKind.of c m.key = .numeric →
    ∀ atom ∈ m.atoms, ∃ n : Nat, n ≤ 2 ^ 53 ∧ LogQL.Atom.unquoted atom = toString n

/-- The line of the record says the same of the fields of the match as its labels do: no other name
ends with the key, in whatever case, and the fields hold what the catalog says of them, texts
without escapes or whole numbers that doubles hold exactly. -/
structure FlowRecord.Comparable (k : CaseFolding) (w : Escaping) (c : Catalog) (m : Filter.Match)
    (r : FlowRecord) : Prop where
  nodup : (r.map RecordField.name).Nodup
  named : ∀ e ∈ r, e.EndsLike k (c.needsStrictKey m.key) m.key → e.name ∈ fieldsOf c m.key
  texts : LineKind.of c m.key = .text → ∀ e ∈ r, e.name ∈ fieldsOf c m.key →
    ∃ s, e.value = .text s ∧ w.Keeps s
  numbers : LineKind.of c m.key = .numeric → ∀ e ∈ r, e.name ∈ fieldsOf c m.key →
    ∃ n : Int, n.natAbs ≤ 2 ^ 53 ∧ e.value = .number (.ofInt n)

namespace LogQL.FlowQuery

variable {store : LabelStore} {w : Escaping} {q : FlowQuery} {c : Catalog} {m : Filter.Match}
  {f : LineFilter} {r : FlowRecord} {ls : List LabelFilter}

/-- The fields that a key stands for are named by it. -/
theorem isNamed_of_mem_fieldsOf {key : String} {e : RecordField} (h : e.name ∈ fieldsOf c key) :
    e.IsNamed (c.needsStrictKey key) key :=
  ends_of_mem_fieldsOf h

/-- The key of a match names the fields of a comparable record that it stands for, and no
others. -/
theorem isNamed_iff_mem_fieldsOf (hr : r.Comparable store.folding w c m) {e : RecordField}
    (he : e ∈ r) : e.IsNamed (c.needsStrictKey m.key) m.key ↔ e.name ∈ fieldsOf c m.key := by
  refine ⟨fun hnamed => hr.named e he ⟨m.key, ?_, hnamed⟩, isNamed_of_mem_fieldsOf⟩
  exact List.forall₂_same.mpr fun d _ => store.folding.reads_self true d

/-- A negated line filter is stated by one label filter. It keeps the line of a record exactly if
the record has one of the fields and the label filter keeps the labels of all that it has. -/
theorem exists_stated_of_lineOf (hm : m.Admitted) (hmatch : m.Comparable store.folding c)
    (hr : r.Comparable store.folding w c m) (hnegated : m.negated = true)
    (hatLeast : m.atLeast = false) (hf : lineOf c m = .ok f) (hls : f.toLabels? = some ls) :
    ∃ l, ls = [l] ∧ l.key = m.key ∧
      (f.Keeps store.toSearcher (r.line w) ↔ (∃ e ∈ r, e.name ∈ fieldsOf c m.key) ∧
        ∀ e ∈ r, e.name ∈ fieldsOf c m.key → l.KeepsText store e.value.label) := by
  have hkey : Consists Recovered.isNameChar m.key :=
    hm.key_chars.mono fun _ => isNameChar_of_isKeyRest
  have hstrict : c.needsStrictKey m.key = true ∨ m.key ≠ "" := by
    refine .inr fun hnil => ?_
    have hstart := hm.key
    rw [hnil] at hstart
    cases hstart
  rw [lineOf, hnegated, hatLeast] at hf
  have hname : f.key = m.key := (LineFilter.ofAtoms_eq_ok.mp hf).2.1
  have hstated : ls = f.stated :=
    LineFilter.eq_stated_of_toLabels? (hname ▸ hkey) (fun _ => hm.atom_chars) hf
      (LineFilter.values_ne_nil_of_ofAtoms m.atoms_ne_nil hf) hmatch.quotes hls
  have hnamed : ∀ e ∈ r,
      (e.name ∈ fieldsOf c m.key ↔ e.IsNamed (c.needsStrictKey m.key) m.key) := fun e he =>
    (isNamed_iff_mem_fieldsOf hr he).symm
  have hiff : ∀ l : LabelFilter,
      ((∃ e ∈ r, e.name ∈ fieldsOf c m.key) ∧
        ∀ e ∈ r, e.name ∈ fieldsOf c m.key → l.KeepsText store e.value.label) ↔
      (∃ e ∈ r, e.IsNamed (c.needsStrictKey m.key) m.key) ∧
        ∀ e ∈ r, e.IsNamed (c.needsStrictKey m.key) m.key → l.KeepsText store e.value.label :=
    fun l => and_congr
      (exists_congr fun e => and_congr_right fun he => hnamed e he)
      (forall_congr' fun e => forall_congr' fun he => imp_congr_left (hnamed e he))
  simp only [hiff, hstated]
  cases hkind : LineKind.of c m.key with
  | array =>
    rw [hkind] at hf
    obtain ⟨atom, ha⟩ := List.exists_mem_of_ne_nil _ m.atoms_ne_nil
    have hnone : f.toLabels? = none :=
      (LineFilter.toLabels?_ofAtoms hkey hmatch.quotes hf).mpr ⟨rfl, atom, ha, rfl⟩
    rw [hls] at hnone
    cases hnone
  | text =>
    rw [hkind] at hf
    obtain ⟨hstars, hcased⟩ := hmatch.texts hkind
    exact LineFilter.exists_keeps_texts hmatch.key hstrict m.atoms_ne_nil hstars hmatch.quotes
      hcased hf ⟨fun e he hlike => isNamed_of_mem_fieldsOf (hr.named e he hlike),
        fun e he hname => hr.texts hkind e he ((hnamed e he).mpr hname)⟩
  | numeric =>
    rw [hkind] at hf
    exact LineFilter.exists_keeps_numbers hmatch.key hstrict m.atoms_ne_nil
      (hmatch.numbers hkind) hf
      fun e he hname => hr.numbers hkind e he ((hnamed e he).mpr hname)

/-- The clause that is lifted from the line filter of a negated match keeps the records that the
line filter keeps and those that have none of the fields, which the line filter rejects; where one
of the fields is missing, only if its label filter keeps the empty text. -/
theorem keeps_lifted_iff (hm : m.Admitted) (hmatch : m.Comparable store.folding q.catalog)
    (hr : r.Comparable store.folding w q.catalog m) (hnegated : m.negated = true)
    (hatLeast : m.atLeast = false) (hadd : q.addMatch m = .ok (q.addLine f))
    (hls : f.toLabels? = some ls) :
    ∃ l clause, ls = [l] ∧ lifted q.catalog f = [clause] ∧
      (f.Keeps store.toSearcher (r.line w) → ∃ name ∈ fieldsOf q.catalog m.key, r.Has name) ∧
      (clause.Keeps store r ↔
        (f.Keeps store.toSearcher (r.line w) ∨ ∀ name ∈ fieldsOf q.catalog m.key, ¬r.Has name) ∧
          ((∃ name ∈ fieldsOf q.catalog m.key, ¬r.Has name) → l.KeepsText store "")) := by
  obtain ⟨-, hline⟩ := addMatch_eq_addLine_iff.mp hadd
  obtain ⟨l, rfl, hkey, hkeeps⟩ :=
    exists_stated_of_lineOf hm hmatch hr hnegated hatLeast hline hls
  have hlifted : lifted q.catalog f = [liftedClause q.catalog true l] := by
    rw [lifted, hls, negated_lineOf hline, hnegated]
    rfl
  refine ⟨l, _, rfl, hlifted, ?_, ?_⟩
  · intro hf
    obtain ⟨⟨e, he, hname⟩, -⟩ := hkeeps.mp hf
    exact ⟨e.name, hname, e, he, rfl⟩
  rw [keeps_liftedClause_iff, hkey]
  constructor
  · intro hall
    refine ⟨?_, ?_⟩
    · by_cases hhas : ∃ name ∈ fieldsOf q.catalog m.key, r.Has name
      · obtain ⟨name, hname, e, he, rfl⟩ := hhas
        refine .inl (hkeeps.mpr ⟨⟨e, he, hname⟩, fun e he hname => ?_⟩)
        rw [← FlowRecord.label_of_mem hr.nodup he]
        exact hall e.name hname
      · exact .inr fun name hname h => hhas ⟨name, hname, h⟩
    · rintro ⟨name, hname, hnot⟩
      rw [← FlowRecord.label_of_not_has hnot]
      exact hall name hname
  · rintro ⟨hkept, hmissing⟩ name hname
    by_cases hhas : r.Has name
    · obtain ⟨e, he, rfl⟩ := hhas
      have hf := hkept.resolve_right fun hnone => hnone e.name hname ⟨e, he, rfl⟩
      rw [FlowRecord.label_of_mem hr.nodup he]
      exact (hkeeps.mp hf).2 e he hname
    · rw [FlowRecord.label_of_not_has hhas]
      exact hmissing ⟨name, hname, hhas⟩

/-- A record with both ports. -/
def twoPorts : FlowRecord :=
  [LineFilter.sourcePort 8080, ⟨"DstPort", by decide, .number (.ofInt 443)⟩]

/-- A match that excludes two ports. -/
def otherPorts : Filter.Match := { key := "Port", values := "80,443", negated := true }

/-- The line filter of the match. -/
def otherPortsLine : LineFilter :=
  { key := "Port", strict := false, negated := true, values := [⟨.number, "80"⟩, ⟨.number, "443"⟩] }

/-- On a record with both ports, the line filter and the clause say the same. -/
theorem keeps_lifted_iff_twoPorts :
    ∃ clause, Filter.Expression.parse "Port!=80,443" = .ok [[otherPorts]] ∧
      (ofOptions namespaceCatalog {}).addMatch otherPorts =
        .ok ((ofOptions namespaceCatalog {}).addLine otherPortsLine) ∧
      lifted namespaceCatalog otherPortsLine = [clause] ∧
      (clause.Keeps .ascii twoPorts ↔ otherPortsLine.Keeps .ascii (twoPorts.line .required)) := by
  have hm : otherPorts.Admitted := ⟨by decide +kernel, by decide +kernel⟩
  have hkind : LineKind.of namespaceCatalog otherPorts.key = .numeric := by decide +kernel
  have hatoms : otherPorts.atoms = ["80", "443"] := by decide +kernel
  have hfields : fieldsOf namespaceCatalog otherPorts.key = ["SrcPort", "DstPort"] := by
    decide +kernel
  have hmatch : otherPorts.Comparable .ascii namespaceCatalog := by
    refine ⟨by decide, by decide +kernel, fun htext => ?_, fun _ => ?_⟩
    · cases hkind.symm.trans htext
    · rw [hatoms, List.forall_mem_cons, List.forall_mem_singleton]
      exact ⟨⟨80, by decide, by decide +kernel⟩, ⟨443, by decide, by decide +kernel⟩⟩
  have hr : twoPorts.Comparable .ascii .required namespaceCatalog otherPorts := by
    refine ⟨by decide, fun e he _ => ?_, fun htext => ?_, fun _ e he _ => ?_⟩
    · rw [hfields]
      simp only [twoPorts, List.mem_cons, List.not_mem_nil, or_false] at he
      rcases he with rfl | rfl <;> simp [LineFilter.sourcePort]
    · cases hkind.symm.trans htext
    · simp only [twoPorts, List.mem_cons, List.not_mem_nil, or_false] at he
      rcases he with rfl | rfl
      · exact ⟨8080, by decide, rfl⟩
      · exact ⟨443, by decide, rfl⟩
  have hadd : (ofOptions namespaceCatalog {}).addMatch otherPorts =
      .ok ((ofOptions namespaceCatalog {}).addLine otherPortsLine) :=
    addMatch_eq_addLine_iff.mpr ⟨by decide +kernel, by decide +kernel⟩
  have hls : otherPortsLine.toLabels? = some [.regex "Port" "(80)|(443)" true] := by
    decide +kernel
  obtain ⟨l, clause, -, hlifted, -, hkeeps⟩ :=
    @keeps_lifted_iff .ascii .required (ofOptions namespaceCatalog {}) _ otherPortsLine twoPorts _
      hm hmatch hr rfl rfl hadd hls
  have hhas : ∀ name ∈ fieldsOf namespaceCatalog otherPorts.key, twoPorts.Has name := by
    simp [hfields, FlowRecord.Has, twoPorts, LineFilter.sourcePort]
  refine ⟨clause, by decide +kernel, hadd, hlifted, hkeeps.trans ?_⟩
  constructor
  · rintro ⟨hkept, -⟩
    refine hkept.resolve_right fun hnone => ?_
    obtain ⟨name, hname⟩ :=
      List.exists_mem_of_ne_nil _ (fieldsOf_ne_nil namespaceCatalog otherPorts.key)
    exact hnone name hname (hhas name hname)
  · intro hkept
    refine ⟨.inl hkept, ?_⟩
    rintro ⟨name, hname, hnot⟩
    exact absurd (hhas name hname) hnot

/-- A record with a port only. -/
def onePort : FlowRecord := [LineFilter.sourcePort 80]

/-- The line filter of a name that is excluded. -/
def excludedName : LineFilter :=
  { key := "SrcK8S_Name", strict := false, negated := true, values := [⟨.text, "x"⟩] }

/-- The line filter of an excluded name rejects a record without the field. The clause that is
lifted from it keeps the record. -/
theorem keeps_lifted_missing :
    ∃ m clause, Filter.Expression.parse "SrcK8S_Name!=\"x\"" = .ok [[m]] ∧
      (ofOptions namespaceCatalog {}).addMatch m =
        .ok ((ofOptions namespaceCatalog {}).addLine excludedName) ∧
      lifted namespaceCatalog excludedName = [clause] ∧ clause.Keeps .ascii onePort ∧
      ¬excludedName.Keeps .ascii (onePort.line .required) := by
  refine ⟨{ key := "SrcK8S_Name", values := "\"x\"", negated := true },
    .single (.regex "SrcK8S_Name" "x" true), by decide +kernel,
    addMatch_eq_addLine_iff.mpr ⟨by decide +kernel, by decide +kernel⟩, by decide +kernel, ?_, ?_⟩
  · have hdenotes : DenotesFrom false "x".toList (fun k => Atom.Fits k false ['x']) false :=
      Atom.denotesFrom_chars false ['x']
    have hempty : ¬LabelStore.ascii.Matches "x" "" := by
      rw [matches_iff_of_denotesFrom hdenotes, Atom.fits_iff_eq (by decide)]
      decide
    simpa [Clause.Keeps, Clause.single, LabelFilter.Keeps, LabelFilter.KeepsText,
      LabelFilter.Selects, LabelFilter.regex, FlowRecord.label, onePort,
      LineFilter.sourcePort] using hempty
  · have hkey : Consists Text.isWord excludedName.key := by decide
    have hnone : ¬∃ e ∈ onePort, e.IsNamed excludedName.strict excludedName.key := by decide
    rw [LineFilter.keeps_iff_of_negated rfl rfl (List.cons_ne_nil _ _),
      LineFilter.finds_keyPattern_iff hkey (.inr (by decide))]
    exact fun h => hnone h.1

end LogQL.FlowQuery

end FlowConsole
