import FlowConsole.Proofs.Filter.Admitted
import FlowConsole.Proofs.Filter.Satisfaction
import FlowConsole.Proofs.LogQL.Texts
import FlowConsole.Proofs.Record.Members
import Mathlib.Data.List.TakeWhile

/-!
# Stars on the line of a record

A text can be compared where it is a label, or searched for on the line of the record. On the line a
star may run over the closing quote of the text, up to a later quote, and an atom may hold quotes
itself. What the search finds besides the texts that the atom selects is exactly that
(`LineFilter.keeps_iff_selects_or_runsOn`). It is nothing for atoms whose stars come last, and for
any other atom without quotes inside there is a record that shows the difference
(`LineFilter.keeps_iff_starsLast`).
-/

open FlowConsole.Text (Consists)
open FlowConsole.Regex (Searcher)

namespace FlowConsole

/-- The key names the members of that name and no others, and texts are written as they are. -/
structure FlatRecord.IsPlain (w : Escaping) (strict : Bool) (key : String) (r : FlatRecord) :
    Prop where
  named : ∀ e ∈ r, e.IsNamed w strict key ↔ e.name = key
  texts : ∀ e ∈ r, ∀ s, e.value = .text s → w.Keeps s

/-- A value that starts with a quote is a text. -/
theorem RecordValue.exists_text_of_append {w : Escaping} {v : RecordValue} {rest cs : List Char}
    (hrest : rest.head? ≠ some '"') (h : v.written w ++ rest = '"' :: cs) : ∃ s, v = .text s := by
  cases v with
  | text s => exact ⟨s, rfl⟩
  | number n =>
    rw [written] at h
    cases hchars : n.text.toList with
    | nil =>
      rw [hchars, List.nil_append] at h
      rw [h] at hrest
      exact absurd rfl hrest
    | cons c ds =>
      rw [hchars, List.cons_append, List.cons.injEq] at h
      have hdigit := n.chars c (hchars ▸ List.mem_cons_self)
      rw [h.1] at hdigit
      cases hdigit
  | flag b =>
    cases b with
    | false => simp [written] at h
    | true => simp [written] at h
  | nothing => simp [written] at h

/-- A word character is no control character. -/
theorem Text.space_le_of_isWord {c : Char} (h : isWord c = true) : 0x20 ≤ c.toNat := by
  have hcontrol : ∀ n < 0x20, isAsciiWord (Char.ofNat n) = false := by decide
  by_contra hlt
  have hc := hcontrol c.toNat (Nat.lt_of_not_le hlt)
  rw [isWord_of_ascii (by omega)] at h
  rw [Char.ofNat_toNat, h] at hc
  cases hc

/-- A character of a value is no backslash and no control character. -/
theorem Filter.plain_of_isValueChar {c : Char} (h : isValueChar c = true) :
    c ≠ '\\' ∧ 0x20 ≤ c.toNat := by
  constructor
  · rintro rfl
    simp [isValueChar, Text.isAsciiWord] at h
  · simp only [isValueChar, Bool.or_eq_true, beq_iff_eq, or_assoc] at h
    rcases h with h | rfl | rfl | rfl | rfl | rfl | rfl | rfl
    · exact Text.space_le_of_isWord h
    all_goals decide

/-- A text of such characters without quotes is written as it is where only the required escapes are
used. -/
theorem Escaping.keeps_required {s : String} (hs : Consists Filter.isValueChar s)
    (hquote : '"' ∉ s.toList) : Escaping.required.Keeps s := by
  intro c hc
  obtain ⟨hescape, hcontrol⟩ := Filter.plain_of_isValueChar (hs c hc)
  exact Escaping.escape_required (fun h => hquote (h ▸ hc)) hescape hcontrol

namespace LogQL

namespace Atom

variable {k : CaseFolding} {ignoreCase : Bool} {atom : String} {cs ds text : List Char}

/-- What is written for the atom fits the text, its closing quote and some of what follows, up to a
later quote. -/
def RunsOn (k : CaseFolding) (atom s : String) (closing : List Char) : Prop :=
  ∃ text after, closing = text ++ '"' :: after ∧
    FitsWritten k false atom (s.toList ++ '"' :: text)

/-- What is written for the atom is found between the opening quote of a text and a later quote
exactly if the atom selects the text or runs on. -/
theorem exists_fitsWritten_iff {s : String} (hquote : '"' ∉ s.toList) (hline : '\n' ∉ s.toList)
    (closing : List Char) :
    (∃ text after, s.toList ++ '"' :: closing = text ++ '"' :: after ∧
        FitsWritten k false atom text) ↔ Selects k false atom s ∨ RunsOn k atom s closing := by
  constructor
  · rintro ⟨text, after, htext, hfits⟩
    obtain ⟨z, rfl, hz⟩ := exists_append_of_not_mem hquote htext
    cases z with
    | nil =>
      rw [List.append_nil] at hfits
      exact .inl ((fitsWritten_iff hquote hline).mp hfits)
    | cons c z =>
      obtain ⟨rfl, hclosing⟩ := List.cons.inj hz
      exact .inr ⟨z, after, hclosing, hfits⟩
  · rintro (hselects | ⟨text, after, rfl, hfits⟩)
    · exact ⟨s.toList, closing, rfl, (fitsWritten_iff hquote hline).mpr hselects⟩
    · exact ⟨s.toList ++ '"' :: text, after, by simp, hfits⟩

/-- An atom whose stars come last does not run on, unless it selects the text. -/
theorem RunsOn.selects {s : String} {closing : List Char} (h : RunsOn k atom s closing)
    (hatom : StarsLast atom) (hinside : '"' ∉ (unquoted atom).toList) (hquote : '"' ∉ s.toList)
    (hline : '\n' ∉ s.toList) : Selects k false atom s := by
  obtain ⟨text, after, rfl, hfits⟩ := h
  have heq : (s.toList ++ '"' :: text) ++ '"' :: after =
      s.toList ++ '"' :: (text ++ '"' :: after) := by simp
  exact (fitsWritten_iff hquote hline).mp (hfits.of_append hatom hinside hquote hline heq)

/-- If not all stars of an atom come last, there is a first one with something else after it. -/
theorem exists_of_not_starsLast (h : ¬StarsLast atom) :
    ∃ cs ds, (unquoted atom).toList = cs ++ '*' :: ds ∧ '*' ∉ cs ∧ ds.filter (· ≠ '*') ≠ [] := by
  have hsplit := List.takeWhile_append_dropWhile (p := (· ≠ '*')) (l := (unquoted atom).toList)
  have hcs : '*' ∉ (unquoted atom).toList.takeWhile (· ≠ '*') := fun hmem => by
    simpa using List.mem_takeWhile_imp hmem
  cases hrest : (unquoted atom).toList.dropWhile (· ≠ '*') with
  | nil =>
    rw [hrest] at hsplit
    exact absurd ⟨_, 0, hsplit.symm, hcs⟩ h
  | cons c ds =>
    have hc : c = '*' := by
      have hhead := List.head?_dropWhile_not (· ≠ '*') (unquoted atom).toList
      rw [hrest] at hhead
      simpa using hhead
    subst hc
    rw [hrest] at hsplit
    refine ⟨_, ds, hsplit.symm, hcs, fun hnil => h ⟨_, ds.length + 1, ?_, hcs⟩⟩
    have hstars : ds = List.replicate ds.length '*' := by
      rw [List.eq_replicate_iff, and_iff_right rfl]
      simpa using hnil
    rw [List.replicate_succ, ← hstars, hsplit]

/-- Characters fit no text that is shorter than they are without the stars. -/
theorem Fits.length_le (h : Fits k ignoreCase cs text) :
    (cs.filter (· ≠ '*')).length ≤ text.length := by
  induction cs generalizing text with
  | nil => exact Nat.zero_le _
  | cons c cs ih =>
    rw [Fits] at h
    split at h
    · next hc =>
      obtain ⟨u, v, rfl, -, hv⟩ := h
      have hle := ih hv
      rw [List.filter_cons_of_neg (by simp [hc]), List.length_append]
      omega
    · next hc =>
      obtain ⟨d, v, rfl, -, hv⟩ := h
      have hle := ih hv
      rw [List.filter_cons_of_pos (by simp [hc]), List.length_cons, List.length_cons]
      omega

/-- An atom selects no text that is shorter than what is between its quotes without the stars. -/
theorem Selects.length_le {s : String} (h : Selects k ignoreCase atom s) :
    ((unquoted atom).toList.filter (· ≠ '*')).length ≤ s.toList.length := by
  rw [Selects] at h
  rw [unquoted]
  cases hinner : unquoted? atom with
  | some inner =>
    rw [hinner] at h
    exact h.length_le
  | none =>
    rw [hinner] at h
    simpa using h.length_le

private theorem filter_eq_self (h : '*' ∉ cs) : cs.filter (· ≠ '*') = cs :=
  List.filter_eq_self.mpr fun _ hc => decide_eq_true fun hstar => h (hstar ▸ hc)

/-- An atom with something after its first star does not select what comes before that. -/
theorem not_selects_of_split (hatom : (unquoted atom).toList = cs ++ '*' :: ds) (hcs : '*' ∉ cs)
    (hds : ds.filter (· ≠ '*') ≠ []) : ¬Selects k ignoreCase atom (String.ofList cs) := by
  intro h
  have hle := h.length_le
  rw [hatom, List.filter_append, filter_eq_self hcs, List.filter_cons_of_neg (by simp),
    List.length_append, String.toList_ofList] at hle
  have hpos := List.length_pos_iff.mpr hds
  omega

/-- Characters up to a first star fit themselves, the star anything on one line, and what comes
after it fits itself without the stars. -/
theorem fits_over (hstar : '*' ∉ cs) {u : List Char} (hu : '\n' ∉ u) :
    Fits k ignoreCase (cs ++ '*' :: ds) (cs ++ (u ++ ds.filter (· ≠ '*'))) := by
  have hself : Fits k ignoreCase cs cs := by
    have h := fits_withoutStars (k := k) ignoreCase cs
    rwa [filter_eq_self hstar] at h
  refine hself.append ?_
  rw [Fits, if_pos rfl]
  exact ⟨u, _, rfl, hu, fits_withoutStars ignoreCase ds⟩

/-- An atom with something after its first star runs on from what comes before that to what comes
after it, over anything on one line. -/
theorem runsOn_of_split (hatom : (unquoted atom).toList = cs ++ '*' :: ds) (hcs : '*' ∉ cs)
    {u : List Char} (hu : '\n' ∉ u) (after : List Char) :
    RunsOn k atom (String.ofList cs) (u ++ ds.filter (· ≠ '*') ++ '"' :: after) := by
  have hover : '\n' ∉ '"' :: u := by simp [hu]
  refine ⟨u ++ ds.filter (· ≠ '*'), after, rfl, ?_⟩
  rw [String.toList_ofList, FitsWritten]
  rw [unquoted] at hatom
  cases hinner : unquoted? atom with
  | some inner =>
    rw [hinner, Option.getD_some] at hatom
    simp only [hatom]
    exact fits_over hcs hover
  | none =>
    rw [hinner, Option.getD_none] at hatom
    have hfits : Fits k true (cs ++ '*' :: ds ++ ['*'])
        (cs ++ ('"' :: u ++ ds.filter (· ≠ '*')) ++ []) :=
      (fits_over hcs hover).append (fits_star List.not_mem_nil)
    rw [List.append_nil] at hfits
    simp only [hatom]
    exact ⟨[], _, rfl, List.not_mem_nil, hfits⟩

end Atom

namespace LineFilter

open Atom (FitsWritten StarsLast RunsOn lineText)

variable {f : LineFilter} {key atom : String} {strict negated : Bool} {w : Escaping}
  {r : FlatRecord} {store : Searcher}

/-- The pattern of a line filter for one atom is found in a line exactly if the key, a quote and a
colon stand there before what is written for the atom, between two quotes. -/
theorem finds_text_iff (hkey : Consists Text.isWord key)
    (h : ofAtoms key [atom] .text strict negated false = .ok f) {line : String} :
    store.Finds f.body line ↔ ∃ before text after,
      line.toList = before ++ ((if strict then ['"'] else []) ++ key.toList) ++
        '"' :: ':' :: '"' :: (text ++ '"' :: after) ∧
      FitsWritten store.folding false atom text := by
  have hbody : f.body = f.alternative (lineText atom) := by
    rw [body, values_ofAtoms Atom.of_ofAtom_text h]
    rfl
  obtain ⟨-, rfl, rfl, -⟩ := ofAtoms_eq_ok.mp h
  obtain ⟨p, hread, hmatches⟩ := (denotesFrom_alternative hkey false atom).exists_read
  rw [store.finds_iff (hbody ▸ hread), Regex.Finds]
  simp only [hmatches, HoldsText, fits_keyPattern_iff hkey]
  constructor
  · rintro ⟨before, -, after, hline, -, text, rfl, ⟨name, hname, rfl⟩, hfits⟩
    obtain rfl : f.key.toList = name := List.forall₂_eq_eq_eq ▸ hname
    exact ⟨before, text, after, by simp [hline], hfits⟩
  · rintro ⟨before, text, after, hline, hfits⟩
    refine ⟨before, _, after, ?_, _, text, rfl, ⟨f.key.toList, ?_, rfl⟩, hfits⟩
    · simp [hline]
    · exact List.forall₂_same.mpr fun _ _ => rfl

/-- A line filter for one atom keeps the line of a plain record exactly if the record has a member
of the name whose text the atom selects, or from whose text it runs on. -/
theorem keeps_iff_selects_or_runsOn (hkey : Consists Text.isWord key)
    (hstrict : strict = true ∨ key ≠ "")
    (h : ofAtoms key [atom] .text strict false false = .ok f) (hr : r.IsPlain w strict key) :
    f.Keeps store (r.line w) ↔ ∃ pre e post s, r = pre ++ e :: post ∧ e.name = key ∧
      e.value = .text s ∧ (Atom.Selects store.folding false atom s ∨
        RunsOn store.folding atom s (FlatRecord.closing w post)) := by
  have hnegated : f.negated = false := (ofAtoms_eq_ok.mp h).2.2.2.1
  rw [keeps_iff_of_positive hnegated, finds_text_iff hkey h]
  constructor
  · rintro ⟨before, text, after, hline, hfits⟩
    obtain ⟨pre, e, post, rfl, hnamed, hvalue⟩ :=
      FlatRecord.exists_split_of_key (ne_signs_of_consists hkey) hstrict hline
    have he : e ∈ pre ++ e :: post := List.mem_append_right pre List.mem_cons_self
    have hclosing : (FlatRecord.closing w post).head? ≠ some '"' := by
      obtain ⟨c, cs, hcs, rfl | rfl⟩ := FlatRecord.closing_eq w post
      · simp [hcs]
      · simp [hcs]
    obtain ⟨s, hs⟩ := RecordValue.exists_text_of_append hclosing hvalue.symm
    have hkept := hr.texts e he s hs
    rw [hs, hkept.written, List.cons_append, List.cons_append, List.cons.injEq,
      List.append_assoc] at hvalue
    obtain ⟨hquote, hnewline⟩ := hkept.not_mem
    exact ⟨pre, e, post, s, rfl, (hr.named e he).mp hnamed, hs,
      (Atom.exists_fitsWritten_iff hquote hnewline _).mp ⟨text, after, hvalue.2.symm, hfits⟩⟩
  · rintro ⟨pre, e, post, s, rfl, hname, hs, hselects⟩
    have he : e ∈ pre ++ e :: post := List.mem_append_right pre List.mem_cons_self
    have hkept := hr.texts e he s hs
    obtain ⟨hquote, hnewline⟩ := hkept.not_mem
    obtain ⟨text, after, htext, hfits⟩ :=
      (Atom.exists_fitsWritten_iff hquote hnewline _).mpr hselects
    obtain ⟨before, hline⟩ := FlatRecord.exists_line_of_suffix pre post ((hr.named e he).mpr hname)
    refine ⟨before, text, after, ?_, hfits⟩
    rw [hline, hs, hkept.written, ← htext]
    simp

/-- Where the stars come last and no quote stands inside, a line filter for one atom keeps the line
of a plain record exactly if the record has a member of the name whose text the atom selects. -/
theorem keeps_iff_of_starsLast (hkey : Consists Text.isWord key)
    (hstrict : strict = true ∨ key ≠ "")
    (h : ofAtoms key [atom] .text strict false false = .ok f)
    (hinside : '"' ∉ (Atom.unquoted atom).toList) (hatom : StarsLast atom)
    (hr : r.IsPlain w strict key) :
    f.Keeps store (r.line w) ↔ ∃ e ∈ r, e.name = key ∧ ∃ s, e.value = .text s ∧
      Atom.Selects store.folding false atom s := by
  rw [keeps_iff_selects_or_runsOn hkey hstrict h hr]
  constructor
  · rintro ⟨pre, e, post, s, rfl, hname, hs, hselects⟩
    have he : e ∈ pre ++ e :: post := List.mem_append_right pre List.mem_cons_self
    obtain ⟨hquote, hline⟩ := (hr.texts e he s hs).not_mem
    refine ⟨e, he, hname, s, hs, ?_⟩
    rcases hselects with hselects | hruns
    · exact hselects
    · exact hruns.selects hatom hinside hquote hline
  · rintro ⟨e, he, hname, s, hs, hselects⟩
    obtain ⟨pre, post, rfl⟩ := List.append_of_mem he
    exact ⟨pre, e, post, s, rfl, hname, hs, .inl hselects⟩

/-! ### Records that show the difference -/

/-- A name of one letter, which is not the key. -/
def otherName (key : String) : String := if key = "a" then "b" else "a"

/-- A record with a text under the key and another text after it. -/
def twoTexts (key first second : String) : FlatRecord :=
  [⟨key, .text first⟩, ⟨otherName key, .text second⟩]

private theorem otherName_cases (key : String) :
    (otherName key = "a" ∨ otherName key = "b") ∧ otherName key ≠ key := by
  rw [otherName]
  split
  · next h =>
    rw [h]
    decide
  · next h => exact ⟨.inl rfl, Ne.symm h⟩

private theorem keeps_otherName (key : String) : Escaping.required.Keeps (otherName key) := by
  rcases (otherName_cases key).1 with h | h
  · rw [h]
    exact Escaping.keeps_required (by decide +kernel) (by decide)
  · rw [h]
    exact Escaping.keeps_required (by decide +kernel) (by decide)

/-- The key names the first text only. -/
theorem isPlain_twoTexts (hkey : Consists Text.isWord key) (hstrict : strict = true ∨ key ≠ "")
    {first second : String} (hfirst : Escaping.required.Keeps first)
    (hsecond : Escaping.required.Keeps second) :
    (twoTexts key first second).IsPlain .required strict key := by
  obtain ⟨hother, hne⟩ := otherName_cases key
  have hwritten : Escaping.required.Keeps key := by
    refine Escaping.keeps_required (fun c hc => ?_) (quote_not_mem_of_consists hkey)
    simp [Filter.isValueChar, hkey c hc]
  have hotherWritten := keeps_otherName key
  have hunnamed : ¬if strict then otherName key = key else
      key.toList <:+ (otherName key).toList := by
    split
    · exact hne
    · next hloose =>
      obtain ⟨c, hc⟩ : ∃ c, (otherName key).toList = [c] := by
        rcases hother with h | h
        · exact ⟨'a', by rw [h]; rfl⟩
        · exact ⟨'b', by rw [h]; rfl⟩
      rw [hc, List.suffix_cons_iff, List.suffix_nil, ← hc, String.toList_inj,
        String.toList_eq_nil_iff, not_or]
      exact ⟨Ne.symm hne, hstrict.resolve_left hloose⟩
  refine ⟨?_, ?_⟩
  · intro e he
    have hname : Escaping.required.Keeps e.name := by
      rw [twoTexts, List.mem_cons, List.mem_singleton] at he
      rcases he with rfl | rfl
      · exact hwritten
      · exact hotherWritten
    rw [Member.isNamed_iff_of_keeps (quote_not_mem_of_consists hkey) hname]
    rw [twoTexts, List.mem_cons, List.mem_singleton] at he
    rcases he with rfl | rfl
    · simp
    · exact iff_of_false hunnamed hne
  · intro e he s hs
    rw [twoTexts, List.mem_cons, List.mem_singleton] at he
    rcases he with rfl | rfl
    · exact RecordValue.text.inj hs ▸ hfirst
    · exact RecordValue.text.inj hs ▸ hsecond

/-- What comes after the first of two texts. -/
theorem exists_closing_otherName (key : String) {second : String}
    (hsecond : Escaping.required.Keeps second) :
    ∃ u, '\n' ∉ u ∧ FlatRecord.closing .required [⟨otherName key, .text second⟩] =
      u ++ second.toList ++ '"' :: ['\x7d'] := by
  have hname := keeps_otherName key
  refine ⟨',' :: '"' :: (otherName key).toList ++ ['"', ':', '"'], ?_, ?_⟩
  · simp [hname.not_mem.2]
  · rw [FlatRecord.closing, List.map_singleton, WrittenField.closing, WrittenField.written,
      Member.onLine, hsecond.written]
    simp [hname.flatMap_escape, WrittenField.closing]

/-- The line filter of an atom with something after its first star keeps a record with a text that
the atom does not select. -/
theorem exists_keeps_of_not_starsLast (store : Searcher) (hatom : Consists Filter.isValueChar atom)
    (hkey : Consists Text.isWord key) (hstrict : strict = true ∨ key ≠ "")
    (h : ofAtoms key [atom] .text strict false false = .ok f)
    (hinside : '"' ∉ (Atom.unquoted atom).toList) (hlast : ¬StarsLast atom) :
    ∃ first second, (twoTexts key first second).IsPlain .required strict key ∧
      f.Keeps store ((twoTexts key first second).line .required) ∧
      ¬Atom.Selects store.folding false atom first := by
  obtain ⟨cs, ds, hsplit, hcs, hds⟩ := Atom.exists_of_not_starsLast hlast
  have hkept : ∀ es ⊆ cs ++ '*' :: ds, Escaping.required.Keeps (String.ofList es) := by
    intro es hes
    rw [← hsplit] at hes
    apply Escaping.keeps_required
    · intro c hc
      rw [String.toList_ofList] at hc
      exact consists_unquoted hatom c (hes hc)
    · rw [String.toList_ofList]
      exact fun hmem => hinside (hes hmem)
  have hfirst := hkept cs fun c hc => List.mem_append_left _ hc
  have hsecond := hkept (ds.filter (· ≠ '*')) fun c hc =>
    List.mem_append_right cs (List.mem_cons_of_mem _ (List.mem_filter.mp hc).1)
  have hplain := isPlain_twoTexts hkey hstrict hfirst hsecond
  refine ⟨_, _, hplain, ?_, Atom.not_selects_of_split hsplit hcs hds⟩
  obtain ⟨u, hu, hclosing⟩ := exists_closing_otherName key hsecond
  rw [keeps_iff_selects_or_runsOn hkey hstrict h hplain]
  refine ⟨[], _, _, _, rfl, rfl, rfl, .inr ?_⟩
  rw [hclosing, String.toList_ofList]
  exact Atom.runsOn_of_split hsplit hcs hu _

/-- For every atom of an admitted match there is a line filter for texts. It keeps the line of a
plain record exactly if the record has a member of the name whose text the expression of the atom
accepts, or from whose text the atom runs on. Without a quote inside, the first of these is all
there is, for every plain record, exactly if the stars of the atom come last. What the expression of
the atom accepts is what the comparison made for a label accepts. -/
theorem keeps_iff_starsLast {m : Filter.Match} (hm : m.Admitted) (ha : atom ∈ m.atoms)
    (hkey : Consists Text.isWord key) (hstrict : strict = true ∨ key ≠ "") (store : Searcher) :
    ∃ f, ofAtoms key [atom] .text strict false false = .ok f ∧
      (∀ w r, FlatRecord.IsPlain w strict key r →
        (f.Keeps store (r.line w) ↔ ∃ pre e post s, r = pre ++ e :: post ∧ e.name = key ∧
          e.value = .text s ∧ ((LabelFilter.anyOf key [atom] false).Selects store.toEngine s ∨
            RunsOn store.folding atom s (FlatRecord.closing w post)))) ∧
      ('"' ∉ (Atom.unquoted atom).toList →
        ((∀ w r, FlatRecord.IsPlain w strict key r →
          (f.Keeps store (r.line w) ↔ ∃ e ∈ r, e.name = key ∧ ∃ s, e.value = .text s ∧
            (LabelFilter.anyOf key [atom] false).Selects store.toEngine s)) ↔
          StarsLast atom)) ∧
      ∀ s, (LabelFilter.ofAtoms key [atom] false).Selects store.toEngine s ↔
        (LabelFilter.anyOf key [atom] false).Selects store.toEngine s := by
  have hvalue : LineValue.ofAtom key .text false atom = .ok (lineText atom) := by
    rw [LineValue.ofAtom, lineText, if_neg Bool.false_ne_true]
    cases Atom.unquoted? atom with
    | none => rfl
    | some inner => rfl
  have hf : ofAtoms key [atom] .text strict false false =
      .ok { key, strict, values := [lineText atom] } :=
    ofAtoms_eq_ok.mpr ⟨.cons hvalue .nil, rfl, rfl, rfl, rfl⟩
  refine ⟨_, hf, ?_, ?_, ?_⟩
  · intro w r hr
    simp only [LabelFilter.selects_anyOf_singleton]
    exact keeps_iff_selects_or_runsOn hkey hstrict hf hr
  · intro hinside
    simp only [LabelFilter.selects_anyOf_singleton]
    constructor
    · intro hagree
      by_contra hlast
      obtain ⟨first, second, hplain, hkeeps, hselected⟩ := exists_keeps_of_not_starsLast
        store (hm.atom_chars ha) hkey hstrict hf hinside hlast
      obtain ⟨e, he, hname, s, hs, hselects⟩ := (hagree _ _ hplain).mp hkeeps
      rw [twoTexts, List.mem_cons, List.mem_singleton] at he
      rcases he with rfl | rfl
      · exact hselected (RecordValue.text.inj hs ▸ hselects)
      · exact (otherName_cases key).2 hname
    · exact fun hatom w r hr => keeps_iff_of_starsLast hkey hstrict hf hinside hatom hr
  · exact fun s => LabelFilter.selects_ofAtoms_iff_anyOf (List.cons_ne_nil _ _) false

/-- The stars of a quoted stem come last, so that the line filter keeps the lines of the records
with a text that starts with the stem. -/
theorem keeps_iff_starsLast_stem :
    ∃ m : Filter.Match, m.Admitted ∧ "\"ab*\"" ∈ m.atoms ∧
      ∃ f, ofAtoms "SrcK8S_Name" ["\"ab*\""] .text false false false = .ok f ∧
        ∀ w r, FlatRecord.IsPlain w false "SrcK8S_Name" r →
          (f.Keeps .ascii (r.line w) ↔ ∃ e ∈ r, e.name = "SrcK8S_Name" ∧ ∃ s, e.value = .text s ∧
            (LabelFilter.anyOf "SrcK8S_Name" ["\"ab*\""] false).Selects .ascii s) := by
  have hm : Filter.Match.Admitted { key := "SrcK8S_Name", values := "\"ab*\"" } :=
    ⟨by decide +kernel, by decide +kernel⟩
  have ha : "\"ab*\"" ∈ Filter.Match.atoms { key := "SrcK8S_Name", values := "\"ab*\"" } := by
    decide
  have hlast : StarsLast "\"ab*\"" := ⟨['a', 'b'], 1, by decide, by decide⟩
  have hkey : Consists Text.isWord "SrcK8S_Name" := by decide +kernel
  have hstrict : false = true ∨ "SrcK8S_Name" ≠ "" := .inr (by decide)
  obtain ⟨f, hf, -, hagree, -⟩ := keeps_iff_starsLast hm ha hkey hstrict .ascii
  exact ⟨_, hm, ha, f, hf, (hagree (by decide)).mpr hlast⟩

/-- The line filter of a text with a star inside. -/
def starInside : LineFilter :=
  { key := "SrcK8S_Name", strict := false, values := [⟨.text, "a.*b"⟩] }

/-- The line filter of a match with a star inside its text keeps a record where a later text ends as
the match says, although the text that the match is on does not. -/
theorem keeps_overrun :
    ∃ m : Filter.Match, Filter.Expression.parse "SrcK8S_Name=\"a*b\"" = .ok [[m]] ∧
      m.atoms = ["\"a*b\""] ∧
      (FlowQuery.ofOptions FlowQuery.namespaceCatalog {}).addMatch m =
        .ok ((FlowQuery.ofOptions FlowQuery.namespaceCatalog {}).addLine starInside) ∧
      (twoTexts "SrcK8S_Name" "a" "b").IsPlain .required false "SrcK8S_Name" ∧
      (twoTexts "SrcK8S_Name" "a" "b").line .required =
        "\x7b\"SrcK8S_Name\":\"a\",\"a\":\"b\"\x7d" ∧
      starInside.Keeps .ascii ((twoTexts "SrcK8S_Name" "a" "b").line .required) ∧
      ¬(LabelFilter.anyOf "SrcK8S_Name" ["\"a*b\""] false).Selects .ascii "a" := by
  have hkey : Consists Text.isWord "SrcK8S_Name" := by decide +kernel
  have hstrict : false = true ∨ "SrcK8S_Name" ≠ "" := .inr (by decide)
  have hline : ofAtoms "SrcK8S_Name" ["\"a*b\""] .text false false false = .ok starInside := by
    decide +kernel
  have hsplit : (Atom.unquoted "\"a*b\"").toList = ['a'] ++ '*' :: ['b'] := by decide
  have hsecond : Escaping.required.Keeps "b" :=
    Escaping.keeps_required (by decide +kernel) (by decide)
  have hplain : (twoTexts "SrcK8S_Name" "a" "b").IsPlain .required false "SrcK8S_Name" :=
    isPlain_twoTexts hkey hstrict (Escaping.keeps_required (by decide +kernel) (by decide)) hsecond
  obtain ⟨u, hu, hclosing⟩ := exists_closing_otherName "SrcK8S_Name" hsecond
  have hruns := Atom.runsOn_of_split (k := .ascii) hsplit (by decide) hu ['\x7d']
  have hselects : ¬Atom.Selects Regex.Engine.ascii.folding false "\"a*b\"" "a" :=
    Atom.not_selects_of_split hsplit (by decide) (by decide)
  refine ⟨{ key := "SrcK8S_Name", values := "\"a*b\"" }, by decide +kernel, by decide,
    FlowQuery.addMatch_eq_addLine_iff.mpr ⟨by decide +kernel, by decide +kernel⟩, hplain,
    by decide +kernel, ?_, ?_⟩
  · rw [keeps_iff_selects_or_runsOn hkey hstrict hline hplain]
    exact ⟨[], _, _, "a", rfl, rfl, rfl, .inr (hclosing ▸ hruns)⟩
  · rw [LabelFilter.selects_anyOf_singleton]
    exact hselects

end LineFilter

end LogQL

end FlowConsole
