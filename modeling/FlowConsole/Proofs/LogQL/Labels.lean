import FlowConsole.LogQL.Flow
import FlowConsole.Proofs.Filter.Satisfaction
import FlowConsole.Proofs.LogQL.Search
import FlowConsole.Proofs.Record.Basic
import FlowConsole.Proofs.Regex.Flagged
import FlowConsole.Proofs.Text.Integers

/-!
# Records after the `json` stage

After the `json` stage the fields of a record are labels, and a field that is missing is a label
with an empty text. A clause keeps a record by its labels (`Clause.Keeps`). The clause that stands
for a negated line filter asks its filter of every field that the name stands for, there or not
(`FlowQuery.keeps_liftedClause_iff`).
-/

open FlowConsole.Regex (DenotesFrom Engine)

namespace FlowConsole

/-! ### Labels of records -/

/-- The text of the label that a value becomes. -/
def RecordValue.label : RecordValue → String
  | .text s => s
  | .number n => n.text
  | .flag true => "true"
  | .flag false => "false"
  | .nothing => ""

namespace FlowRecord

/-- The record has a field of the name. -/
def Has (r : FlowRecord) (name : String) : Prop := ∃ e ∈ r, e.name = name

/-- The text of a label after the `json` stage. A missing field is a label with an empty one. -/
def label (r : FlowRecord) (name : String) : String :=
  ((r.find? fun e => e.name = name).map fun e => e.value.label).getD ""

/-- The label of a missing field is empty. -/
theorem label_of_not_has {r : FlowRecord} {name : String} (h : ¬r.Has name) :
    r.label name = "" := by
  have hnone : (r.find? fun e => e.name = name) = none := by
    rw [List.find?_eq_none]
    exact fun e he hname => h ⟨e, he, of_decide_eq_true hname⟩
  rw [label, hnone]
  rfl

/-- Where no name stands twice, the label of a field is that of its value. -/
theorem label_of_mem {r : FlowRecord} (h : (r.map RecordField.name).Nodup) {e : RecordField}
    (he : e ∈ r) : r.label e.name = e.value.label := by
  have hsome : (r.find? fun e' => e'.name = e.name) = some e := by
    induction r with
    | nil => cases he
    | cons d r ih =>
      rw [List.map_cons, List.nodup_cons] at h
      rcases List.mem_cons.mp he with rfl | he
      · simp
      · have hne : d.name ≠ e.name := fun hname =>
          h.1 (hname ▸ List.mem_map_of_mem he)
        rw [List.find?_cons_of_neg (by simpa using hne), ih h.2 he]
  rw [label, hsome]
  rfl

end FlowRecord

namespace LogQL

/-- How a store filters records: by searches of their lines, and by comparisons of the labels that
their fields become. Whole numbers that doubles hold exactly are compared by value; nothing is said
of comparisons of other texts with a number. -/
structure LabelStore extends Regex.Searcher where
  KeepsNumber : Operator → String → String → Prop
  keeps_equal : ∀ {bound n : Int}, bound.natAbs ≤ 2 ^ 53 → n.natAbs ≤ 2 ^ 53 →
    (KeepsNumber .equal (toString bound) (toString n) ↔ n = bound)
  keeps_notEqual : ∀ {bound n : Int}, bound.natAbs ≤ 2 ^ 53 → n.natAbs ≤ 2 ^ 53 →
    (KeepsNumber .notEqual (toString bound) (toString n) ↔ n ≠ bound)

/-- A whole number that doubles hold exactly fits in 64 bits. -/
theorem fitsInt64_of_exact {n : Int} (h : n.natAbs ≤ 2 ^ 53) : Integer.FitsInt64 n :=
  Integer.fitsInt64_of_natAbs_le (h.trans (by decide))

private theorem parse_exact {n : Int} (h : n.natAbs ≤ 2 ^ 53) :
    Integer.parse (toString n) = .ok n :=
  Integer.parse_toString (fitsInt64_of_exact h)

/-- A store for which only letters of the ASCII range have case, and which compares whole numbers
of 64 bits only. -/
def LabelStore.ascii : LabelStore where
  toSearcher := .ascii
  KeepsNumber operator bound text :=
    ∃ b n : Int, Integer.parse bound = .ok b ∧ Integer.parse text = .ok n ∧
      match operator with
      | .equal => n = b
      | .notEqual => n ≠ b
      | .atLeast => b ≤ n
      | .matching | .notMatching => False
  keeps_equal := by
    intro bound n hbound hn
    simp only [parse_exact hbound, parse_exact hn]
    simp [eq_comm]
  keeps_notEqual := by
    intro bound n hbound hn
    simp only [parse_exact hbound, parse_exact hn]
    simp

/-- The filter keeps a label with the text. -/
def LabelFilter.KeepsText (store : LabelStore) (l : LabelFilter) (text : String) : Prop :=
  if l.form = .number then store.KeepsNumber l.operator l.value text
  else l.Selects store.toEngine text

/-- The filter keeps a record by the label of its key. -/
def LabelFilter.Keeps (store : LabelStore) (l : LabelFilter) (r : FlowRecord) : Prop :=
  l.KeepsText store (r.label l.key)

/-- One of the filters of a clause keeps the record, or all of them do. -/
def Clause.Keeps (store : LabelStore) (c : Clause) (r : FlowRecord) : Prop :=
  if c.anyOf then ∃ l ∈ c.filters, l.Keeps store r else ∀ l ∈ c.filters, l.Keeps store r

variable {store : LabelStore} {r : FlowRecord}

/-- The clause that stands for a negated line filter keeps a record if the label filter keeps the
label of each field that the name stands for. -/
theorem FlowQuery.keeps_liftedClause_iff (c : Catalog) (l : LabelFilter) :
    (liftedClause c true l).Keeps store r ↔
      ∀ name ∈ fieldsOf c l.key, l.KeepsText store (r.label name) := by
  rw [liftedClause, fieldsOf]
  cases c.pair? l.key with
  | none => simp [Clause.single, Clause.Keeps, LabelFilter.Keeps]
  | some p =>
    obtain ⟨src, dst⟩ := p
    simp [Clause.Keeps, LabelFilter.Keeps, LabelFilter.KeepsText, LabelFilter.Selects]

/-! ### Values and groups of values -/

/-- An expression matches the texts that it denotes. -/
theorem matches_iff_of_denotesFrom {pattern : String} {p : CaseFolding → List Char → Prop}
    {after : Bool} (h : DenotesFrom false pattern.toList p after) (engine : Engine)
    (text : String) : engine.Matches pattern text ↔ p engine.folding text.toList := by
  obtain ⟨x, hread, hmatches⟩ := h.exists_read
  rw [engine.matches_iff hread, Regex.MatchesAll, hmatches]

section

variable {α : Type} {written : α → String} {leaves : Bool → α → Bool}
  {p : Bool → α → CaseFolding → List Char → Prop}

/-- Expressions in groups match the texts that one of them denotes on its own. -/
theorem matches_groups_iff {as : List α} (hne : as ≠ [])
    (h : ∀ ignoreCase, ∀ a ∈ as,
      DenotesFrom ignoreCase (written a).toList (p ignoreCase a) (leaves ignoreCase a))
    (engine : Engine) (text : String) :
    engine.Matches (Text.join "|" (as.map fun a => "(" ++ written a ++ ")")) text ↔
      ∃ a ∈ as, p false a engine.folding text.toList := by
  have hchars : (Text.join "|" (as.map fun a => "(" ++ written a ++ ")")).toList =
      Text.joinPieces '|' (as.map fun a => '(' :: (written a).toList ++ [')']) := by
    rw [Text.toList_join (show "|".toList = ['|'] from rfl), List.map_map]
    simp [Function.comp_def]
  have hgroup : ∀ ignoreCase, ∀ a ∈ as, DenotesFrom ignoreCase
      ('(' :: (written a).toList ++ [')']) (p ignoreCase a) ignoreCase :=
    fun ignoreCase a ha => (h ignoreCase a ha).group
  obtain ⟨x, hread, hmatches⟩ :=
    @Regex.exists_read_joinPieces_from α _ (fun ignoreCase _ => ignoreCase) p as hne hgroup
  rw [engine.matches_iff (hchars ▸ hread), Regex.MatchesAll, hmatches]
  simp only [List.foldl_fixed]
  constructor
  · rintro ⟨pre, a, post, rfl, ha⟩
    exact ⟨a, by simp, ha⟩
  · rintro ⟨a, hmem, ha⟩
    obtain ⟨pre, post, rfl⟩ := List.append_of_mem hmem
    exact ⟨pre, a, post, rfl, ha⟩

end

end LogQL

end FlowConsole
