import FlowConsole.Proofs.LogQL.Recovery
import FlowConsole.Proofs.LogQL.Search
import FlowConsole.Proofs.Record.Members
import FlowConsole.Proofs.Record.Names

/-!
# Where the pattern of a name is found

A line filter looks for a field by the end of its name, or by all of it where the name is known to
be the end of another. The characters of the key are written into the pattern as they are, so that a
dot stands for any character there, and the pattern is found at every name that is like the key
(`FlowQuery.findsJust_iff`). A key without dots is found at the names that end with it and nowhere
else. These are the fields that the match names, unless the key stands for a source and a
destination field and is the end of another known name as well.
-/

open FlowConsole.Text (Consists)
open FlowConsole.Regex (Denotes)

namespace FlowConsole

/-! ### Places -/

namespace FlatRecord

/-- The expression matches right before the value of the member between the others. -/
def FindsAt (k : CaseFolding) (w : Escaping) (p : Regex) (pre : FlatRecord) (e : Member)
    (post : FlatRecord) : Prop :=
  ∃ before part, (line w (pre ++ e :: post)).toList =
      before ++ part ++ (e.value.written w ++ closing w post) ∧
    p.Matches k before part (e.value.written w ++ closing w post)

/-- On the line of the record the expression matches right before the values of the members that are
wanted, and nowhere else. -/
structure FindsJust (k : CaseFolding) (w : Escaping) (p : Regex) (r : FlatRecord)
    (wanted : Member → Prop) : Prop where
  sound : ∀ before part after, (line w r).toList = before ++ part ++ after →
    p.Matches k before part after → ∃ pre e post, r = pre ++ e :: post ∧ wanted e ∧
      after = e.value.written w ++ closing w post
  complete : ∀ pre e post, r = pre ++ e :: post → wanted e → FindsAt k w p pre e post

/-- What is wanted may be said in other words. -/
theorem FindsJust.congr {k : CaseFolding} {w : Escaping} {p : Regex} {r : FlatRecord}
    {wanted wanted' : Member → Prop} (h : FindsJust k w p r wanted)
    (hwanted : ∀ e ∈ r, (wanted e ↔ wanted' e)) : FindsJust k w p r wanted' := by
  constructor
  · intro before part after hline hmatches
    obtain ⟨pre, e, post, rfl, he, hafter⟩ := h.sound before part after hline hmatches
    exact ⟨pre, e, post, rfl, (hwanted e (by simp)).mp he, hafter⟩
  · rintro pre e post rfl he
    exact h.complete pre e post rfl ((hwanted e (by simp)).mpr he)

/-- Where just the wanted members are found, a record of one member that is found holds a wanted
one. -/
theorem FindsJust.of_singleton {k : CaseFolding} {w : Escaping} {p : Regex} {e : Member}
    {wanted : Member → Prop} (h : FindsJust k w p [e] wanted) (hfinds : FindsAt k w p [] e []) :
    wanted e := by
  obtain ⟨before, part, hline, hmatches⟩ := hfinds
  obtain ⟨pre, e', post, hsplit, hwanted, -⟩ := h.sound _ _ _ hline hmatches
  have he : e' ∈ [e] := hsplit ▸ List.mem_append_right pre List.mem_cons_self
  exact List.mem_singleton.mp he ▸ hwanted

end FlatRecord

namespace LogQL

/-! ### Patterns of names -/

/-- The character is read where `c` stands in the pattern of a name: there, a dot stands for any
character on the line. -/
def NameReads (c d : Char) : Prop := if c = '.' then d ≠ '\n' else c = d

/-- Without dots, a name is read for itself only. -/
theorem forall₂_nameReads_iff {key name : List Char} (h : '.' ∉ key) :
    List.Forall₂ NameReads key name ↔ key = name := by
  induction key generalizing name with
  | nil => rw [List.forall₂_nil_left_iff, eq_comm]
  | cons c key ih =>
    rw [List.mem_cons, not_or] at h
    rw [List.forall₂_cons_left_iff]
    simp only [ih h.2, NameReads, if_neg (Ne.symm h.1)]
    constructor
    · rintro ⟨d, ds, rfl, rfl, rfl⟩
      rfl
    · rintro rfl
      exact ⟨c, key, rfl, rfl, rfl⟩

private theorem isWord_of_isKeyRest {c : Char} (h : Filter.isKeyRest c = true) (hdot : c ≠ '.') :
    Text.isWord c = true := by
  rw [Filter.isKeyRest, Bool.or_eq_true, beq_iff_eq] at h
  exact h.resolve_right hdot

/-- A dot denotes any character on one line. -/
theorem denotes_dot : Denotes ['.'] fun text => ∃ c, text = [c] ∧ c ≠ '\n' := by
  have hadds : Regex.Reader.Adds false ['.'] [.one false .any] :=
    Regex.Reader.adds_of_step fun s hmode hcase => by
      rw [Regex.Reader.step, hmode, ← hcase]
      rfl
  exact Regex.denotes_of_adds hadds fun _ _ _ _ => Regex.matches_one

/-- The characters of a name denote the names that are read for them. -/
theorem denotes_name {key : List Char} (hkey : ∀ c ∈ key, Filter.isKeyRest c = true) :
    Denotes key (List.Forall₂ NameReads key) := by
  induction key with
  | nil => exact Regex.denotes_nil.congr fun text => List.forall₂_nil_left_iff.symm
  | cons c key ih =>
    rw [List.forall_mem_cons] at hkey
    have hfirst : Denotes [c] fun text => ∃ d, text = [d] ∧ NameReads c d := by
      by_cases hdot : c = '.'
      · subst hdot
        exact denotes_dot.congr fun text => by simp [NameReads]
      · have hself : ∀ d ∈ [c], Atom.charPattern d = [d] :=
          List.forall_mem_singleton.mpr
            (Atom.charPattern_of_isWord (isWord_of_isKeyRest hkey.1 hdot))
        exact (Atom.denotes_self hself).congr fun text => by simp [NameReads, hdot]
    refine (hfirst.append (ih hkey.2)).congr fun text => ?_
    rw [List.forall₂_cons_left_iff]
    constructor
    · rintro ⟨-, v, rfl, ⟨d, rfl, hd⟩, hv⟩
      exact ⟨d, v, hd, hv, rfl⟩
    · rintro ⟨d, v, hd, hv, rfl⟩
      exact ⟨[d], v, rfl, ⟨d, rfl, hd⟩, hv⟩

namespace LineFilter

variable {f : LineFilter} {k : CaseFolding} {w : Escaping} {p : Regex}

/-- The text is a name that is read for the key, with what stands around it in the pattern. -/
def HoldsName (f : LineFilter) (part : List Char) : Prop :=
  ∃ name, List.Forall₂ NameReads f.key.toList name ∧
    part = (if f.strict then ['"'] else []) ++ name ++ ['"', ':']

/-- The pattern of a name is an expression that matches the names that are read for it. -/
theorem exists_read_keyPattern (hkey : Consists Filter.isKeyRest f.key) :
    ∃ p, Regex.read f.keyPattern.toList = some p ∧
      ∀ k before part after, p.Matches k before part after ↔ f.HoldsName part := by
  have hstart : Denotes (if f.strict then ['"'] else [])
      (· = if f.strict then ['"'] else []) := by
    apply Atom.denotes_self
    split
    · exact List.forall_mem_singleton.mpr rfl
    · exact List.forall_mem_nil _
  have hstop : Denotes ['"', ':'] (· = ['"', ':']) :=
    Atom.denotes_self (List.forall_mem_cons.mpr ⟨rfl, List.forall_mem_singleton.mpr rfl⟩)
  obtain ⟨p, hread, hmatches⟩ := ((hstart.append (denotes_name hkey)).append hstop).exists_read
  rw [← toList_keyPattern] at hread
  refine ⟨p, hread, fun k before part after => ?_⟩
  rw [hmatches, HoldsName]
  constructor
  · rintro ⟨-, -, rfl, ⟨-, name, rfl, rfl, hname⟩, rfl⟩
    exact ⟨name, hname, rfl⟩
  · rintro ⟨name, hname, rfl⟩
    exact ⟨_, _, rfl, ⟨_, name, rfl, rfl, hname⟩, rfl⟩

/-- The pattern of a name is found at every name that ends, as it is written, with one that is read
for the key. -/
theorem findsAt_of_suffix (hmatches : ∀ k before part after,
      p.Matches k before part after ↔ f.HoldsName part) {name : List Char}
    (hname : List.Forall₂ NameReads f.key.toList name) (pre : FlatRecord) {e : Member}
    (post : FlatRecord)
    (hsuffix : (if f.strict then ['"'] else []) ++ name <:+ '"' :: (e.onLine w).name) :
    FlatRecord.FindsAt k w p pre e post := by
  obtain ⟨before, hline⟩ := FlatRecord.exists_line_of_suffix pre post hsuffix
  refine ⟨before, _, ?_, (hmatches k before _ _).mpr ⟨name, hname, rfl⟩⟩
  rw [hline]
  simp

/-- The pattern of a name without dots is found just at the members whose names end with it as they
are written. -/
theorem findsJust_isNamed (hmatches : ∀ k before part after,
      p.Matches k before part after ↔ f.HoldsName part) (hkey : Consists Text.isWord f.key)
    (hne : f.strict = true ∨ f.key ≠ "") (r : FlatRecord) :
    FlatRecord.FindsJust k w p r (Member.IsNamed w f.strict f.key) := by
  have hdot : '.' ∉ f.key.toList := fun hmem =>
    ne_of_isWord (hkey _ hmem) (d := '.') (by simp [Text.isAsciiWord]) rfl
  constructor
  · intro before part after hline hpart
    obtain ⟨name, hname, rfl⟩ := (hmatches k before part after).mp hpart
    rw [forall₂_nameReads_iff hdot] at hname
    subst hname
    have hplace : (r.line w).toList =
        before ++ ((if f.strict then ['"'] else []) ++ f.key.toList) ++ '"' :: ':' :: after := by
      rw [hline]
      simp
    exact FlatRecord.exists_split_of_key (ne_signs_of_consists hkey) hne hplace
  · rintro pre e post rfl hnamed
    exact findsAt_of_suffix hmatches ((forall₂_nameReads_iff hdot).mpr rfl) pre post hnamed

end LineFilter

namespace FlowQuery

variable {c : Catalog} {key : String} {k : CaseFolding} {w : Escaping}

/-- The names that a match on the key is about. -/
def namesOf (c : Catalog) (key : String) : List String := key :: fieldsOf c key

/-- Where the key stands for two fields, no other known names end with it, of those that are written
as they are. -/
def IsSeparate (w : Escaping) (c : Catalog) (key : String) : Prop :=
  (c.pair? key).isSome = true → ∀ name ∈ c.known, w.Keeps name →
    key.toList <:+ name.toList → name ∈ namesOf c key

/-- The names that a match on the key is about are looked for by it. -/
theorem ends_of_mem_namesOf {name : String} (h : name ∈ namesOf c key) :
    if c.needsStrictKey key then name = key else key.toList <:+ name.toList := by
  rcases List.mem_cons.mp h with rfl | h
  · split
    · rfl
    · exact List.suffix_refl _
  · exact ends_of_mem_fieldsOf h

/-- A known name that is looked for by a separate key is one that a match on the key is about. -/
theorem IsSeparate.mem_namesOf (h : IsSeparate w c key) {name : String} (hknown : name ∈ c.known)
    (hkept : w.Keeps name)
    (hends : if c.needsStrictKey key then name = key else key.toList <:+ name.toList) :
    name ∈ namesOf c key := by
  split at hends
  · rw [hends]
    exact List.mem_cons_self
  · next hloose =>
    cases hpair : c.pair? key with
    | some p => exact h (by rw [hpair]; rfl) name hknown hkept hends
    | none =>
      -- a longer known name that ends with the key would have made it strict
      by_contra hmem
      have hne : name ≠ key := fun heq => hmem (heq ▸ List.mem_cons_self)
      apply hloose
      rw [Catalog.needsStrictKey, hpair, Option.isNone_none, Bool.true_and, List.any_eq_true]
      refine ⟨name, hknown, ?_⟩
      rw [Field.properlyEndsWith, Bool.and_eq_true, List.isSuffixOf_iff_suffix, decide_eq_true_eq]
      refine ⟨hends, Nat.lt_of_le_of_ne hends.length_le fun hlength => hne ?_⟩
      exact (String.toList_inj.mp (hends.eq_of_length hlength)).symm

/-- The pattern of a name without dots is found just at the members that a match on it is about, on
the lines of all records of known names that are written as they are, exactly if the name is
separate. -/
theorem findsJust_namesOf_iff {f : LineFilter} {p : Regex} (hkey : Consists Text.isWord f.key)
    (hne : f.key ≠ "") (hstrict : f.strict = c.needsStrictKey f.key)
    (hmatches : ∀ k before part after, p.Matches k before part after ↔ f.HoldsName part) :
    (∀ r : FlatRecord, (∀ e ∈ r, e.name ∈ c.known ∧ w.Keeps e.name) →
      FlatRecord.FindsJust k w p r fun e => e.name ∈ namesOf c f.key) ↔
        IsSeparate w c f.key := by
  have hquote := quote_not_mem_of_consists hkey
  constructor
  · intro h hpair name hknown hkept hends
    have hloose : f.strict = false := by
      rw [hstrict, Catalog.needsStrictKey, Option.isNone_eq_false_iff.mpr hpair, Bool.false_and]
    have hnamed : Member.IsNamed w f.strict f.key ⟨name, .nothing⟩ := by
      rw [hloose, Member.isNamed_iff_of_keeps hquote hkept]
      exact hends
    have hfinds := (LineFilter.findsJust_isNamed (k := k) hmatches hkey (.inr hne) _).complete []
      ⟨name, .nothing⟩ [] rfl hnamed
    exact (h [⟨name, .nothing⟩] (List.forall_mem_singleton.mpr ⟨hknown, hkept⟩)).of_singleton hfinds
  · intro h r hr
    refine (LineFilter.findsJust_isNamed hmatches hkey (.inr hne) r).congr fun e he => ?_
    obtain ⟨hknown, hkept⟩ := hr e he
    rw [Member.isNamed_iff_of_keeps hquote hkept, hstrict]
    exact ⟨h.mem_namesOf hknown hkept, ends_of_mem_namesOf⟩

/-- Whatever the catalog, the pattern of the name in the line filter of a match that was read is an
expression. It is found at each member whose name, as it is written, ends with one that is read for
the key of the match, where a dot stands for any character; where the key is matched from its start,
that is all of the name. Without dots in the key it is found just at the members that the key names.
These are the ones that the match is about, in all records of known names that are written as they
are, exactly if no further known name ends with a key that stands for two fields. -/
theorem findsJust_iff {raw : String} {e : Filter.Expression} {g : Filter.Group} {m : Filter.Match}
    {q : FlowQuery} {f : LineFilter} (hp : Filter.Expression.parse raw = .ok e) (hg : g ∈ e)
    (hm : m ∈ g) (hadd : q.addMatch m = .ok (q.addLine f)) (k : CaseFolding) (w : Escaping) :
    ∃ p, Regex.read f.keyPattern.toList = some p ∧
      (∀ pre member post name, List.Forall₂ NameReads m.key.toList name →
        (if q.catalog.needsStrictKey m.key then ['"'] else []) ++ name <:+
          '"' :: (Member.onLine w member).name → FlatRecord.FindsAt k w p pre member post) ∧
      ('.' ∉ m.key.toList →
        (∀ r, FlatRecord.FindsJust k w p r
          (Member.IsNamed w (q.catalog.needsStrictKey m.key) m.key)) ∧
        ((∀ r : FlatRecord,
          (∀ member ∈ r, member.name ∈ q.catalog.known ∧ w.Keeps member.name) →
            FlatRecord.FindsJust k w p r fun member => member.name ∈ namesOf q.catalog m.key) ↔
          IsSeparate w q.catalog m.key)) := by
  have hadmitted := Filter.admitted_of_parse hp hg hm
  have hnil : m.key ≠ "" := by
    intro hnil
    have hstart := hadmitted.key
    rw [hnil] at hstart
    cases hstart
  obtain ⟨-, hline⟩ := addMatch_eq_addLine_iff.mp hadd
  obtain ⟨-, hname, hstrict, -⟩ := LineFilter.ofAtoms_eq_ok.mp hline
  have hkey := hadmitted.key_chars
  rw [← hname] at hnil hkey hstrict ⊢
  rw [← hstrict]
  obtain ⟨p, hread, hmatches⟩ := f.exists_read_keyPattern hkey
  refine ⟨p, hread, fun pre member post name hreads hsuffix =>
    LineFilter.findsAt_of_suffix hmatches hreads pre post hsuffix, fun hdot => ?_⟩
  have hword : Consists Text.isWord f.key := fun c hc =>
    isWord_of_isKeyRest (hkey c hc) fun h => hdot (h ▸ hc)
  exact ⟨fun r => LineFilter.findsJust_isNamed hmatches hword (.inr hnil) r,
    findsJust_namesOf_iff hword hnil hstrict hmatches⟩

/-- A port on either side. -/
def eitherPort : Filter.Match := { key := "Port", values := "80" }

/-- The line filter of a port on either side. -/
def eitherPortLine : LineFilter :=
  { key := "Port", strict := false, values := [⟨.number, "80"⟩] }

/-- Only the ports themselves end with the name of a port. -/
theorem findsJust_iff_port :
    Filter.Expression.parse "Port=80" = .ok [[eitherPort]] ∧
      (ofOptions namespaceCatalog {}).addMatch eitherPort =
        .ok ((ofOptions namespaceCatalog {}).addLine eitherPortLine) ∧
      ∃ p, Regex.read eitherPortLine.keyPattern.toList = some p ∧
        ∀ r : FlatRecord, (∀ member ∈ r, member.name ∈ namespaceCatalog.known ∧
          Escaping.required.Keeps member.name) →
            FlatRecord.FindsJust .ascii .required p r fun member =>
              member.name ∈ ["Port", "SrcPort", "DstPort"] := by
  have hp : Filter.Expression.parse "Port=80" = .ok [[eitherPort]] := by decide +kernel
  have hadd : (ofOptions namespaceCatalog {}).addMatch eitherPort =
      .ok ((ofOptions namespaceCatalog {}).addLine eitherPortLine) :=
    addMatch_eq_addLine_iff.mpr ⟨by decide +kernel, by decide +kernel⟩
  obtain ⟨p, hread, -, hdot⟩ := findsJust_iff hp List.mem_cons_self List.mem_cons_self hadd .ascii
    .required
  have hends : ∀ name ∈ namespaceCatalog.known, "Port".toList <:+ name.toList →
      name ∈ namesOf namespaceCatalog "Port" := by
    decide +kernel
  exact ⟨hp, hadd, p, hread,
    (hdot (by decide)).2.mpr fun _ name hknown _ => hends name hknown⟩

/-- The catalog with a name that has an underscore. -/
def nameCatalog : Catalog := namespaceCatalog.register "SrcK8S_Name" (some "string") none

/-- The name with a dot in place of the underscore. -/
def dottedName : Filter.Match := { key := "SrcK8S.Name", values := "\"x\"" }

/-- The line filter of the name with a dot. -/
def dottedNameLine : LineFilter :=
  { key := "SrcK8S.Name", strict := false, values := [⟨.text, "x"⟩] }

/-- A dot in a key stands for the underscore of a known name that the match is not about. -/
theorem findsJust_dotted :
    Filter.Expression.parse "SrcK8S.Name=\"x\"" = .ok [[dottedName]] ∧
      (ofOptions nameCatalog {}).addMatch dottedName =
        .ok ((ofOptions nameCatalog {}).addLine dottedNameLine) ∧
      "SrcK8S_Name" ∈ nameCatalog.known ∧
      ∃ p, Regex.read dottedNameLine.keyPattern.toList = some p ∧
        FlatRecord.FindsAt .ascii .required p [] ⟨"SrcK8S_Name", .text "x"⟩ [] ∧
        ¬FlatRecord.FindsJust .ascii .required p [⟨"SrcK8S_Name", .text "x"⟩] fun member =>
          member.name ∈ namesOf nameCatalog dottedName.key := by
  have hkey : Consists Filter.isKeyRest dottedNameLine.key := by decide +kernel
  have hreads : List.Forall₂ NameReads dottedNameLine.key.toList "SrcK8S_Name".toList := by
    simp [dottedNameLine, NameReads]
  obtain ⟨p, hread, hmatches⟩ := dottedNameLine.exists_read_keyPattern hkey
  have hfinds : FlatRecord.FindsAt .ascii .required p [] ⟨"SrcK8S_Name", .text "x"⟩ [] :=
    LineFilter.findsAt_of_suffix hmatches hreads [] [] (by decide)
  refine ⟨by decide +kernel, addMatch_eq_addLine_iff.mpr ⟨by decide +kernel, by decide +kernel⟩,
    by decide, p, hread, hfinds, fun h => ?_⟩
  exact absurd (h.of_singleton hfinds) (by decide +kernel)

end FlowQuery

end LogQL

end FlowConsole
