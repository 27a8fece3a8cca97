import FlowConsole.Proofs.LogQL.Recovery
import FlowConsole.Proofs.LogQL.Search
import FlowConsole.Proofs.Record.Names
import FlowConsole.Proofs.Regex.Flagged

/-!
# Searches for texts

A line filter for texts searches the line of a record for the end of a name, a quote, a colon and a
text between quotes. A star may run over the closing quote into the fields after it, and after an
atom without quotes later names and texts are read in any case. If the stars of the atoms stand at
their ends, no other name ends with the key, in whatever case, and the texts are written without
escapes, then the search finds the fields whose texts the atoms select
(`LineFilter.finds_texts_iff`).
-/

open FlowConsole.Text (Consists)
open FlowConsole.Regex (DenotesFrom Searcher)

namespace FlowConsole

/-! ### Comparable records -/

/-- What can be read for a character can be read for it in any case. -/
theorem CaseFolding.Reads.ignoringCase {k : CaseFolding} {ignoreCase : Bool} {c d : Char}
    (h : k.Reads ignoreCase c d) : k.Reads true c d := by
  cases ignoreCase with
  | true => exact h
  | false =>
    obtain rfl : c = d := h
    exact k.reads_self true c

/-- The name of the field is the key or ends with it, in any case. -/
def RecordField.EndsLike (k : CaseFolding) (strict : Bool) (key : String) (e : RecordField) :
    Prop :=
  ∃ name : String, List.Forall₂ (k.Reads true) key.toList name.toList ∧ e.IsNamed strict name

/-- The fields whose names are like the key are those that it names, and hold texts that are written
as they are. -/
structure FlowRecord.HoldsTexts (k : CaseFolding) (w : Escaping) (strict : Bool) (key : String)
    (r : FlowRecord) : Prop where
  named : ∀ e ∈ r, e.EndsLike k strict key → e.IsNamed strict key
  texts : ∀ e ∈ r, e.IsNamed strict key → ∃ s, e.value = .text s ∧ w.Keeps s

namespace LogQL

namespace Atom

variable {k : CaseFolding} {ignoreCase : Bool} {atom : String}

/-! ### Values -/

/-- Some of several atoms selects a text if one of them does where the ones before it have been
read. -/
theorem selectsAny_iff_split {atoms : List String} {text : String} :
    SelectsAny k ignoreCase atoms text ↔
      ∃ pre atom post, atoms = pre ++ atom :: post ∧
        Selects k (pre.foldl ignoresCaseAfter ignoreCase) atom text := by
  induction atoms generalizing ignoreCase with
  | nil => simp [SelectsAny]
  | cons a as ih =>
    rw [SelectsAny, ih]
    exact (Regex.exists_split_cons
      (p := fun pre b => Selects k (pre.foldl ignoresCaseAfter ignoreCase) b text)).symm

/-- The value of an atom in a line filter for texts. -/
def lineText (atom : String) : LineValue :=
  match unquoted? atom with
  | some inner => ⟨.text, pattern inner⟩
  | none => ⟨.contains, pattern atom⟩

/-- The value of an admitted atom is its text, or what contains it. -/
theorem of_ofAtom_text {key : String} {v : LineValue}
    (h : LineValue.ofAtom key .text false atom = .ok v) : v = lineText atom := by
  rw [LineValue.ofAtom, if_neg Bool.false_ne_true] at h
  rw [lineText]
  cases hinner : unquoted? atom <;> rw [hinner] at h <;> cases h <;> rfl

/-- The text fits what is written for an atom: the text between its quotes, or something without
quotes, the atom in any case and anything. -/
def FitsWritten (k : CaseFolding) (ignoreCase : Bool) (atom : String) (text : List Char) : Prop :=
  match unquoted? atom with
  | some inner => Fits k ignoreCase inner.toList text
  | none => ∃ u v, text = u ++ v ∧ '"' ∉ u ∧ Fits k true (atom.toList ++ ['*']) v

/-- A text without quotes on one line fits what is written for an atom exactly if the atom selects
it. -/
theorem fitsWritten_iff {s : String} (hquote : '"' ∉ s.toList) (hline : '\n' ∉ s.toList) :
    FitsWritten k ignoreCase atom s.toList ↔ Selects k ignoreCase atom s := by
  rw [FitsWritten, Selects]
  cases unquoted? atom with
  | some inner => exact Iff.rfl
  | none =>
    simp only [List.cons_append, Fits, if_true]
    refine exists_congr fun u => exists_congr fun v => and_congr_right fun hs => ?_
    rw [hs, List.mem_append, not_or] at hquote hline
    simp only [hquote.1, hline.1, not_false_eq_true]

/-- No other character comes after a star of the atom. -/
def StarsLast (atom : String) : Prop :=
  ∃ cs n, (unquoted atom).toList = cs ++ List.replicate n '*' ∧ '*' ∉ cs

private theorem fits_stars {n : Nat} {text : List Char} (h : '\n' ∉ text) :
    Fits k ignoreCase (List.replicate (n + 1) '*') text := by
  have hnone : Fits k ignoreCase (List.replicate n '*') [] := by
    simpa using fits_withoutStars (k := k) ignoreCase (List.replicate n '*')
  rw [List.replicate_succ, Fits, if_pos rfl]
  exact ⟨text, [], (List.append_nil text).symm, h, hnone⟩

private theorem not_mem_of_forall₂ {c : Char} (hcase : c.toNat < 128) (halpha : c.isAlpha = false)
    {cs text : List Char} (h : List.Forall₂ (k.Reads ignoreCase) cs text) (hc : c ∉ cs) :
    c ∉ text := by
  intro hmem
  obtain ⟨d, hd, hreads⟩ := Outcome.exists_of_forall₂ h.flip hmem
  have hsame : d = c := (k.reads_caseless_iff ignoreCase hcase halpha).mp hreads
  exact hc (hsame ▸ hd)

-- Characters with stars at their end, which fit a text before a quote, fit what comes before the
-- first quote.
private theorem Fits.of_append {cs text s after rest : List Char} {n : Nat} (hstar : '*' ∉ cs)
    (hquote : '"' ∉ cs) (hs : '"' ∉ s) (hline : '\n' ∉ s)
    (h : Fits k ignoreCase (cs ++ List.replicate n '*') text)
    (heq : text ++ '"' :: after = s ++ '"' :: rest) :
    Fits k ignoreCase (cs ++ List.replicate n '*') s := by
  obtain ⟨x, y, rfl, hx, hy⟩ := fits_append_iff.mp h
  have hxquote : '"' ∉ x :=
    not_mem_of_forall₂ (by decide) (by decide) ((fits_iff_forall₂ hstar).mp hx) hquote
  rw [List.append_assoc] at heq
  obtain ⟨z, rfl, hz⟩ := exists_append_of_not_mem hxquote heq
  rw [List.mem_append, not_or] at hs hline
  refine hx.append ?_
  cases n with
  | zero =>
    obtain rfl : y = [] := hy
    cases z with
    | nil => exact rfl
    | cons c z =>
      obtain ⟨rfl, -⟩ := List.cons.inj hz
      exact absurd List.mem_cons_self hs.2
  | succ n => exact fits_stars hline.2

/-- If a text before a quote fits what is written for an atom whose stars come last, what comes
before the first quote does. -/
theorem FitsWritten.of_append {text s after rest : List Char} (hatom : StarsLast atom)
    (hinside : '"' ∉ (unquoted atom).toList) (hs : '"' ∉ s) (hline : '\n' ∉ s)
    (h : FitsWritten k ignoreCase atom text)
    (heq : text ++ '"' :: after = s ++ '"' :: rest) : FitsWritten k ignoreCase atom s := by
  obtain ⟨cs, n, hcs, hstar⟩ := hatom
  have hquote : '"' ∉ cs := fun hmem => hinside (hcs ▸ List.mem_append_left _ hmem)
  rw [FitsWritten] at h ⊢
  rw [unquoted] at hcs
  cases hinner : unquoted? atom with
  | some inner =>
    rw [hinner, Option.getD_some] at hcs
    simp only [hinner, hcs] at h ⊢
    exact h.of_append hstar hquote hs hline heq
  | none =>
    rw [hinner, Option.getD_none] at hcs
    simp only [hinner, hcs, List.append_assoc, ← List.replicate_succ'] at h ⊢
    obtain ⟨u, v, rfl, hu, hv⟩ := h
    rw [List.append_assoc] at heq
    obtain ⟨z, rfl, hz⟩ := exists_append_of_not_mem hu heq
    rw [List.mem_append, not_or] at hs hline
    exact ⟨u, z, rfl, hu, hv.of_append hstar hquote hs.2 hline.2 hz⟩

/-- Signs without case fit themselves only. -/
theorem fits_iff_eq_of_caseless {cs text : List Char}
    (h : ∀ c ∈ cs, c ≠ '*' ∧ c.toNat < 128 ∧ c.isAlpha = false) :
    Fits k ignoreCase cs text ↔ text = cs := by
  induction cs generalizing text with
  | nil => exact Iff.rfl
  | cons c cs ih =>
    rw [List.forall_mem_cons] at h
    rw [Fits, if_neg h.1.1]
    simp only [ih h.2, k.reads_iff_of_caseless ignoreCase h.1.2.1 h.1.2.2]
    constructor
    · rintro ⟨-, -, rfl, rfl, rfl⟩
      rfl
    · rintro rfl
      exact ⟨c, cs, rfl, rfl, rfl⟩

/-- The patterns of characters denote the texts that the characters fit. -/
theorem denotesFrom_chars (ignoreCase : Bool) (cs : List Char) :
    DenotesFrom ignoreCase (cs.flatMap charPattern) (fun k => Fits k ignoreCase cs) ignoreCase :=
  ⟨_, (adds_chars ignoreCase cs).extends, fun _ _ _ _ => matches_chars⟩

/-- What is written for an atom denotes the texts that fit it. -/
theorem denotesFrom_written (ignoreCase : Bool) (atom : String) :
    DenotesFrom ignoreCase (lineText atom).written.toList
      (fun k => FitsWritten k ignoreCase atom) (ignoresCaseAfter ignoreCase atom) := by
  simp only [lineText, ignoresCaseAfter]
  cases hinner : unquoted? atom with
  | some inner =>
    have hwritten : (LineValue.written ⟨.text, pattern inner⟩).toList =
        inner.toList.flatMap charPattern := by
      simp [LineValue.written, pattern]
    rw [Option.isNone_some, Bool.or_false, hwritten]
    refine (denotesFrom_chars ignoreCase inner.toList).congr fun k text => ?_
    rw [FitsWritten, hinner]
  | none =>
    have hwritten : (LineValue.written ⟨.contains, pattern atom⟩).toList =
        "(?i)".toList ++ (['[', '^', '"', ']', '*'] ++
          (atom.toList ++ ['*']).flatMap charPattern) := by
      simp [LineValue.written, pattern, charPattern]
    rw [Option.isNone_none, Bool.or_true, hwritten]
    refine ((Regex.denotesFrom_ignoreCase ignoreCase).append
      ((Regex.denotesFrom_without true (c := '"') (by decide) (by decide) (by decide)).append
        (denotesFrom_chars true (atom.toList ++ ['*'])))).congr fun k text => ?_
    simp [FitsWritten, hinner]

end Atom

namespace LineFilter

open Atom (FitsWritten StarsLast Fits Selects lineText)

variable {k : CaseFolding} {ignoreCase : Bool} {f : LineFilter} {atom : String} {w : Escaping}
  {r : FlowRecord}

/-! ### Fields -/

/-- The text is the pattern of the name, an opening quote, a text that fits what is written for the
atom, and a quote. -/
def HoldsText (f : LineFilter) (ignoreCase : Bool) (atom : String) (k : CaseFolding)
    (part : List Char) : Prop :=
  ∃ head text, part = head ++ (text ++ ['"']) ∧
    Fits k ignoreCase (f.keyPattern.toList ++ ['"']) head ∧ FitsWritten k ignoreCase atom text

/-- An alternative denotes fields whose texts fit what is written for its atom. -/
theorem denotesFrom_alternative (hkey : Consists Text.isWord f.key) (ignoreCase : Bool)
    (atom : String) :
    DenotesFrom ignoreCase (f.alternative (lineText atom)).toList (f.HoldsText ignoreCase atom)
      (Atom.ignoresCaseAfter ignoreCase atom) := by
  have hchars : (f.alternative (lineText atom)).toList =
      (f.keyPattern.toList ++ ['"']).flatMap Atom.charPattern ++
        ((lineText atom).written.toList ++ ['"'].flatMap Atom.charPattern) := by
    have hself : f.keyPattern.toList.flatMap Atom.charPattern = f.keyPattern.toList := by
      rw [List.flatMap_congr (charPattern_keyPattern hkey), List.flatMap_singleton']
    rw [List.flatMap_append, hself]
    rw [lineText]
    split <;>
      simp [alternative, fragment, LineValue.pattern, LineValue.boundary, LineValue.written,
        Atom.charPattern, Atom.isMeta]
  rw [hchars]
  refine ((Atom.denotesFrom_chars ignoreCase (f.keyPattern.toList ++ ['"'])).append
    ((Atom.denotesFrom_written ignoreCase atom).append
      (Atom.denotesFrom_chars _ ['"']))).congr fun k part => ?_
  have hquote : ∀ c ∈ ['"'], c ≠ '*' ∧ c.toNat < 128 ∧ c.isAlpha = false := by simp
  simp only [Atom.fits_iff_eq_of_caseless hquote]
  constructor
  · rintro ⟨head, -, rfl, hhead, text, -, rfl, htext, rfl⟩
    exact ⟨head, text, rfl, hhead, htext⟩
  · rintro ⟨head, text, rfl, hhead, htext⟩
    exact ⟨head, text ++ ['"'], rfl, hhead, text, ['"'], rfl, htext, rfl⟩

/-- The pattern of a name and an opening quote fit a name that is read for it, between what stands
around it. -/
theorem fits_keyPattern_iff (hkey : Consists Text.isWord f.key) {head : List Char} :
    Fits k ignoreCase (f.keyPattern.toList ++ ['"']) head ↔
      ∃ name, List.Forall₂ (k.Reads ignoreCase) f.key.toList name ∧
        head = (if f.strict then ['"'] else []) ++ name ++ ['"', ':', '"'] := by
  have hpattern : f.keyPattern.toList ++ ['"'] =
      (if f.strict then ['"'] else []) ++ (f.key.toList ++ ['"', ':', '"']) := by
    rw [toList_keyPattern]
    simp
  have hstar : '*' ∉ f.key.toList := fun hmem =>
    ne_of_isWord (hkey _ hmem) (d := '*') (by simp [Text.isAsciiWord]) rfl
  have hstart : ∀ c ∈ if f.strict then ['"'] else [],
      c ≠ '*' ∧ c.toNat < 128 ∧ c.isAlpha = false := by
    split <;> simp
  have hstop : ∀ c ∈ ['"', ':', '"'], c ≠ '*' ∧ c.toNat < 128 ∧ c.isAlpha = false := by simp
  simp only [hpattern, Atom.fits_append_iff, Atom.fits_iff_eq_of_caseless hstart,
    Atom.fits_iff_eq_of_caseless hstop, Atom.fits_iff_forall₂ hstar]
  constructor
  · rintro ⟨-, -, rfl, rfl, name, -, rfl, hname, rfl⟩
    exact ⟨name, hname, (List.append_assoc _ _ _).symm⟩
  · rintro ⟨name, hname, rfl⟩
    exact ⟨_, _, List.append_assoc _ _ _, rfl, name, _, rfl, hname, rfl⟩

-- A name that is read for a key has no signs that end a name either.
private theorem signs_of_forall₂ {strict : Bool} {key : String} {name : List Char}
    (hkey : Consists Text.isWord key) (hstrict : strict = true ∨ key ≠ "")
    (h : List.Forall₂ (k.Reads ignoreCase) key.toList name) :
    (∀ c ∈ (String.ofList name).toList, c ≠ '"' ∧ c ∉ openingSigns) ∧
      (strict = true ∨ String.ofList name ≠ "") := by
  have hsigns := ne_signs_of_consists hkey
  have hcaseless : ∀ d ∈ openingSigns, d.toNat < 128 ∧ d.isAlpha = false := by
    simp [openingSigns]
  have hquote : '"' ∉ name :=
    Atom.not_mem_of_forall₂ (by decide) (by decide) h fun hmem => (hsigns _ hmem).1 rfl
  have hopening : ∀ d ∈ openingSigns, d ∉ name := by
    intro d hd
    obtain ⟨hcase, halpha⟩ := hcaseless d hd
    exact Atom.not_mem_of_forall₂ hcase halpha h fun hmem => (hsigns _ hmem).2 hd
  rw [String.toList_ofList]
  refine ⟨fun c hc => ⟨fun h => hquote (h ▸ hc), fun h => hopening c h hc⟩,
    hstrict.imp_right fun hne hnil => hne ?_⟩
  rw [← String.toList_eq_nil_iff, String.toList_ofList] at hnil
  rw [hnil, List.forall₂_nil_right_iff] at h
  exact String.toList_eq_nil_iff.mp h

-- A text is read after a name that is like the key exactly if it is the value of a field that the
-- key names, or starts with it.
private theorem exists_holdsText_iff (hkey : Consists Text.isWord f.key)
    (hstrict : f.strict = true ∨ f.key ≠ "") (hatom : StarsLast atom)
    (hinside : '"' ∉ (Atom.unquoted atom).toList)
    (hr : r.HoldsTexts k w f.strict f.key) :
    (∃ before part after, (r.line w).toList = before ++ part ++ after ∧
        f.HoldsText ignoreCase atom k part) ↔
      ∃ e ∈ r, e.IsNamed f.strict f.key ∧ ∃ s, e.value = .text s ∧
        Selects k ignoreCase atom s := by
  constructor
  · rintro ⟨before, -, after, hline, head, text, rfl, hhead, htext⟩
    obtain ⟨name, hname, rfl⟩ := (fits_keyPattern_iff hkey).mp hhead
    have hplace : (r.line w).toList =
        before ++ ((if f.strict then ['"'] else []) ++ (String.ofList name).toList) ++
          '"' :: ':' :: '"' :: (text ++ '"' :: after) := by
      rw [hline, String.toList_ofList]
      simp
    obtain ⟨hsigns, hne⟩ := signs_of_forall₂ hkey hstrict hname
    obtain ⟨e, he, hnamed, rest, hvalue⟩ := FlowRecord.exists_named_of_line hsigns hne hplace
    have hnamed : e.IsNamed f.strict f.key := by
      refine hr.named e he ⟨String.ofList name, ?_, hnamed⟩
      rw [String.toList_ofList]
      exact hname.imp fun _ _ => CaseFolding.Reads.ignoringCase
    obtain ⟨s, hs, hkeeps⟩ := hr.texts e he hnamed
    obtain ⟨hquote, hnewline⟩ := hkeeps.not_mem
    rw [hs, hkeeps.written, List.cons_append, List.cons_append, List.cons.injEq,
      List.append_assoc] at hvalue
    exact ⟨e, he, hnamed, s, hs, (Atom.fitsWritten_iff hquote hnewline).mp
      (htext.of_append hatom hinside hquote hnewline hvalue.2)⟩
  · rintro ⟨e, he, hnamed, s, hs, hselects⟩
    obtain ⟨s', hs', hkeeps⟩ := hr.texts e he hnamed
    obtain rfl : s' = s := RecordValue.text.inj (hs'.symm.trans hs)
    obtain ⟨hquote, hnewline⟩ := hkeeps.not_mem
    obtain ⟨before, rest, hline⟩ :=
      FlowRecord.exists_line_of_named w (quote_not_mem_of_consists hkey) he hnamed
    refine ⟨before, _, rest.closing w, ?_, _, s'.toList, rfl,
      (fits_keyPattern_iff hkey).mpr ⟨f.key.toList, ?_, rfl⟩,
      (Atom.fitsWritten_iff hquote hnewline).mpr hselects⟩
    · rw [hline, hs, hkeeps.written]
      simp
    · exact List.forall₂_same.mpr fun c _ => k.reads_self ignoreCase c

variable {key : String} {atoms : List String} {strict negated atLeast : Bool} {kind : LineKind}
  {store : Searcher}

/-- The pattern of a line filter for texts is found on the line of a record exactly if some of the
atoms selects the text of a field that the key names. -/
theorem finds_texts_iff (hkey : Consists Text.isWord key) (hstrict : strict = true ∨ key ≠ "")
    (hne : atoms ≠ []) (hatoms : ∀ atom ∈ atoms, StarsLast atom)
    (hquotes : ∀ atom ∈ atoms, '"' ∉ (Atom.unquoted atom).toList)
    (h : ofAtoms key atoms .text strict negated false = .ok f)
    (hr : r.HoldsTexts store.folding w strict key) :
    store.Finds f.body (r.line w) ↔
      ∃ e ∈ r, e.IsNamed strict key ∧ ∃ s, e.value = .text s ∧
        Atom.SelectsAny store.folding false atoms s := by
  have hbody : f.body.toList =
      Text.joinPieces '|' (atoms.map fun atom => (f.alternative (lineText atom)).toList) := by
    rw [body, values_ofAtoms Atom.of_ofAtom_text h, if_neg (by simpa using hne),
      Text.toList_join rfl, List.map_map, List.map_map]
    rfl
  obtain ⟨-, rfl, rfl, -⟩ := ofAtoms_eq_ok.mp h
  obtain ⟨p, hread, hmatches⟩ := Regex.exists_read_joinPieces_from hne
    fun ignoreCase atom _ => denotesFrom_alternative hkey ignoreCase atom
  rw [store.finds_iff (hbody ▸ hread), Regex.Finds]
  simp only [hmatches, Atom.selectsAny_iff_split]
  constructor
  · rintro ⟨before, part, after, hline, pre, atom, post, rfl, hholds⟩
    obtain ⟨e, he, hnamed, s, hs, hselects⟩ :=
      (exists_holdsText_iff hkey hstrict (hatoms atom (by simp)) (hquotes atom (by simp)) hr).mp
        ⟨before, part, after, hline, hholds⟩
    exact ⟨e, he, hnamed, s, hs, pre, atom, post, rfl, hselects⟩
  · rintro ⟨e, he, hnamed, s, hs, pre, atom, post, rfl, hselects⟩
    obtain ⟨before, part, after, hline, hholds⟩ :=
      (exists_holdsText_iff hkey hstrict (hatoms atom (by simp)) (hquotes atom (by simp)) hr).mpr
        ⟨e, he, hnamed, s, hs, hselects⟩
    exact ⟨before, part, after, hline, pre, atom, post, rfl, hholds⟩

/-- The pattern of a name is found on the line of a record exactly if the record has a field that
the key names. -/
theorem finds_keyPattern_iff (hkey : Consists Text.isWord f.key)
    (hstrict : f.strict = true ∨ f.key ≠ "") :
    store.Finds f.keyPattern (r.line w) ↔ ∃ e ∈ r, e.IsNamed f.strict f.key := by
  obtain ⟨p, hread, hmatches⟩ := (Atom.denotes_self (charPattern_keyPattern hkey)).exists_read
  rw [store.finds_iff hread, Regex.Finds, ← FlowRecord.exists_named_iff w r hkey hstrict]
  simp only [hmatches, toList_keyPattern]
  constructor
  · rintro ⟨before, -, after, hline, rfl⟩
    exact ⟨before, after, by simp [hline]⟩
  · rintro ⟨before, after, hline⟩
    exact ⟨before, _, after, by simp [hline], rfl⟩

end LineFilter

end LogQL

end FlowConsole
