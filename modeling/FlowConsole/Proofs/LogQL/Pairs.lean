import FlowConsole.Proofs.LogQL.Recovery
import FlowConsole.Proofs.LogQL.Settled
import FlowConsole.Proofs.LogQL.Stages

/-!
# Names that stand for two fields

A name may stand for a source and a destination field. A clause spells it out if it compares both
with the same values, by the same operators. Whether the clauses of a match do depends on the match
and on what the query asks for (`FlowQuery.spells_iff`): a raw regular expression is compared with
the bare name, and where a line filter is stated after the `json` stage, what counts is the name
that is read back, which is that of the match unless an atom has a quote inside.
-/

open FlowConsole.Text (Consists)

namespace FlowConsole.LogQL

/-- The same comparison of another field. -/
def LabelFilter.on (f : LabelFilter) (key : String) : LabelFilter := { f with key }

/-- The comparison with atoms is the same for every field. -/
@[simp] theorem LabelFilter.on_ofAtoms (key key' : String) (atoms : List String) (negated : Bool) :
    (ofAtoms key atoms negated).on key' = ofAtoms key' atoms negated := by
  rw [ofAtoms.eq_def, ofAtoms.eq_def]
  split
  · split
    · rfl
    · rfl
  · rfl

/-! ### Clauses of both fields -/

namespace Clause

/-- The clause compares both fields with the same values, by the same operators; one comparison is
enough unless they are negated. -/
def Spells (src dst : String) (negated : Bool) (cl : Clause) : Prop :=
  (cl.anyOf = !negated) ∧ ∃ fs : List LabelFilter, fs ≠ [] ∧
    cl.filters = fs.map (·.on src) ++ fs.map (·.on dst)

variable {src dst key : String} {negated : Bool} {cl : Clause} {c : Catalog} {f : LabelFilter}

/-- The comparisons stand in parentheses, with *or* between them, or *and* if they are negated. -/
theorem Spells.render_eq (h : cl.Spells src dst negated) :
    cl.render = "(" ++ Text.join (if negated then " and " else " or ")
      (cl.filters.map LabelFilter.render) ++ ")" := by
  obtain ⟨hany, fs, hne, hfilters⟩ := h
  have hseveral : ∀ f, cl.filters ≠ [f] := by
    intro f hsingle
    have hlength := congrArg List.length (hfilters.symm.trans hsingle)
    rw [List.length_append, List.length_map, List.length_map, List.length_singleton] at hlength
    omega
  have hjoin : (if cl.anyOf then " or " else " and ") = if negated then " and " else " or " := by
    rw [hany]
    cases negated with
    | true => rfl
    | false => rfl
  rw [render]
  split
  · next f hsingle => exact absurd hsingle (hseveral f)
  · rw [hjoin]

/-- A clause of one filter does not compare two fields. -/
theorem not_spells_single : ¬(single f).Spells src dst negated := by
  rintro ⟨-, fs, -, hfilters⟩
  have hlength : 1 = (fs.map (·.on src) ++ fs.map (·.on dst)).length :=
    congrArg List.length hfilters
  rw [List.length_append, List.length_map, List.length_map] at hlength
  omega

/-- The clause of a label filter in place of a line filter compares both fields exactly if the
filter is on the name that stands for them. -/
theorem spells_liftedClause_iff (hpair : c.pair? key = some (src, dst)) :
    (FlowQuery.liftedClause c negated f).Spells src dst negated ↔ f.key = key := by
  rw [FlowQuery.liftedClause]
  constructor
  · intro h
    cases hother : c.pair? f.key with
    | none =>
      rw [hother] at h
      exact absurd h not_spells_single
    | some p =>
      obtain ⟨src', dst'⟩ := p
      rw [hother] at h
      obtain ⟨-, fs, hne, hfilters⟩ := h
      obtain ⟨l, fs, rfl⟩ := List.exists_cons_of_ne_nil hne
      have hsource : src' = src := congrArg LabelFilter.key (List.cons.inj hfilters).1
      obtain ⟨hsrc, -⟩ := FlowQuery.eq_of_pair? hpair
      obtain ⟨hsrc', -⟩ := FlowQuery.eq_of_pair? hother
      rw [hsrc, hsrc', String.append_right_inj] at hsource
      exact hsource
  · rintro rfl
    rw [hpair]
    exact ⟨rfl, [f], List.cons_ne_nil _ _, rfl⟩

end Clause

/-! ### Clauses of matches -/

namespace Addition

/-- The clauses that stand for an addition. A label or a line filter has some only where it is moved
after the `json` stage. -/
def clauses (c : Catalog) (moved : Bool) : Addition → List Clause
  | label f => if moved then [.single f] else []
  | line f => if moved then FlowQuery.lifted c f else []
  | clause cl => [cl]

variable {c : Catalog} {m : Filter.Match} {a : Addition} {f : LineFilter} {src dst : String}

/-- A match that adds a line filter is no raw regular expression and adds the line filter of its
field, its atoms and its flags. -/
theorem of_ofMatch_line (h : ofMatch c m = .ok (.line f)) :
    m.regex = false ∧ FlowQuery.lineOf c m = .ok f := by
  have hadd : (FlowQuery.ofOptions c {}).addMatch m =
      .ok ((FlowQuery.ofOptions c {}).addLine f) := by
    rw [FlowQuery.addMatch_eq]
    exact Outcome.map_eq_ok.mpr ⟨_, h, rfl⟩
  obtain ⟨hbecomes, hline⟩ := FlowQuery.addMatch_eq_addLine_iff.mp hadd
  rw [FlowQuery.becomesLine, Bool.and_eq_true, Bool.not_eq_true'] at hbecomes
  exact ⟨hbecomes.1, hline⟩

/-- A match that adds a label filter is on a label. -/
theorem isLabel_of_ofMatch {f : LabelFilter} (h : ofMatch c m = .ok (.label f)) :
    c.isLabel m.key = true := by
  rw [ofMatch] at h
  dsimp only at h
  split_ifs at h with hregex hlabel hatLeast hlabel
  · exact hlabel
  · cases h
  · obtain ⟨g, -, hg⟩ := Outcome.map_eq_ok.mp h
    cases hg
  · exact hlabel
  · cases h
  · cases h
  · cases h
  · obtain ⟨g, -, hg⟩ := Outcome.map_eq_ok.mp h
    cases hg

/-- A clause that a match on a name for two fields adds compares both, unless the match is a raw
regular expression. -/
theorem spells_of_ofMatch {cl : Clause} (hpair : c.pair? m.key = some (src, dst))
    (hregex : m.regex = false) (h : ofMatch c m = .ok (.clause cl)) :
    cl.Spells src dst m.negated := by
  have hfields : FlowQuery.fieldsOf c m.key = [src, dst] := by
    rw [FlowQuery.fieldsOf, hpair]
  rw [ofMatch, hfields, hregex, if_neg Bool.false_ne_true] at h
  split_ifs at h with hatLeast hlabel hlabelled haddress hempty
  · obtain ⟨g, -, hg⟩ := Outcome.map_eq_ok.mp h
    cases hg
  · cases h
  · cases h
    refine ⟨rfl, [.ofAtoms m.key m.atoms m.negated], List.cons_ne_nil _ _, ?_⟩
    simp
  · cases h
    refine ⟨rfl, m.atoms.map fun atom => .address m.key (Atom.unquoted atom) m.negated, ?_, ?_⟩
    · exact mt List.map_eq_nil_iff.mp m.atoms_ne_nil
    · simp [LabelFilter.on, LabelFilter.address, Function.comp_def]
  · cases h
    exact ⟨rfl, [.anyOf m.key m.atoms m.negated], List.cons_ne_nil _ _, rfl⟩
  · obtain ⟨g, -, hg⟩ := Outcome.map_eq_ok.mp h
    cases hg

/-- The clause that a raw regular expression adds has one filter. -/
theorem eq_single_of_regex {cl : Clause} (hregex : m.regex = true)
    (h : ofMatch c m = .ok (.clause cl)) : cl = .single (.regex m.key m.values m.negated) := by
  rw [ofMatch] at h
  dsimp only at h
  rw [if_pos hregex] at h
  split_ifs at h with hlabel
  · cases h
  · cases h
    rfl

/-- The clauses that stand for what is added by a match on a name for two fields compare both
exactly if the match is no raw regular expression and, where its line filter is moved, what is read
back of that is on the name. -/
theorem spells_clauses_iff (hlabel : c.isLabel m.key = false)
    (hpair : c.pair? m.key = some (src, dst)) (ha : ofMatch c m = .ok a) (moved : Bool) :
    (∀ cl ∈ a.clauses c moved, cl.Spells src dst m.negated) ↔
      m.regex = false ∧ (moved = true → ∀ f, a = .line f →
        ∀ l ∈ f.toLabels?.getD [], l.key = m.key) := by
  cases a with
  | label f =>
    rw [isLabel_of_ofMatch ha] at hlabel
    cases hlabel
  | line f =>
    obtain ⟨hregex, hline⟩ := of_ofMatch_line ha
    rw [clauses, and_iff_right hregex, ← FlowQuery.negated_lineOf hline]
    cases moved with
    | false => simp
    | true => simp [FlowQuery.lifted, Clause.spells_liftedClause_iff hpair]
  | clause cl =>
    rw [clauses, List.forall_mem_singleton]
    cases hregex : m.regex with
    | false => simp [spells_of_ofMatch hpair hregex ha]
    | true => simp [eq_single_of_regex hregex ha, Clause.not_spells_single]

/-- If no atom has a quote inside, what is read back of the line filter of a match is on its
name. -/
theorem key_of_mem_toLabels (hm : m.Admitted)
    (hquotes : ∀ atom ∈ m.atoms, '"' ∉ (Atom.unquoted atom).toList)
    (ha : ofMatch c m = .ok (.line f)) : ∀ l ∈ f.toLabels?.getD [], l.key = m.key := by
  obtain ⟨-, hline⟩ := of_ofMatch_line ha
  obtain ⟨-, hname, -⟩ := LineFilter.ofAtoms_eq_ok.mp hline
  have hkey : Consists Recovered.isNameChar f.key :=
    hname ▸ hm.key_chars.mono fun _ => isNameChar_of_isKeyRest
  cases hls : f.toLabels? with
  | none =>
    intro l hl
    cases hl
  | some ls =>
    intro l hl
    rw [Option.getD_some, LineFilter.eq_stated_of_toLabels? hkey (fun _ => hm.atom_chars) hline
      (LineFilter.values_ne_nil_of_ofAtoms m.atoms_ne_nil hline) hquotes hls] at hl
    rw [LineFilter.key_of_mem_stated hl, hname]

end Addition

/-! ### Clauses of queries -/

namespace FlowQuery

variable {c : Catalog} {q : FlowQuery} {as : List Addition}

-- The clauses that stand for additions are those of their labels, of their line filters and those
-- that are added, in some order.
private theorem perm_clauses (c : Catalog) (as : List Addition) :
    ((as.filterMap Addition.label?).map Clause.single ++
        (as.filterMap Addition.line?).flatMap (lifted c) ++
          as.filterMap Addition.clause?).Perm (as.flatMap (Addition.clauses c true)) := by
  induction as with
  | nil => exact .nil
  | cons a as ih =>
    cases a with
    | label f => exact ih.cons (.single f)
    | line f =>
      have hfront := List.perm_append_comm_assoc
        ((as.filterMap Addition.label?).map Clause.single) (lifted c f)
        ((as.filterMap Addition.line?).flatMap (lifted c))
      refine (hfront.append_right _).trans ?_
      rw [List.append_assoc]
      exact ih.append_left (lifted c f)
    | clause cl => exact List.perm_middle.trans (ih.cons cl)

/-- The clauses of a query for all or for any of its matches are those that stand for what was
added, in some order. Labels and line filters are moved if any match is enough and they are not all
of one kind. -/
theorem clauses_matching (h : InOrder as q) (any : Bool) :
    ∃ moved : Bool, (moved = true ↔ any = true ∧ ¬q.IsUniform ∧ ¬q.IsPositiveSearch) ∧
      (q.matching any).clauses.Perm (as.flatMap (Addition.clauses q.catalog moved)) := by
  have hkept : q.clauses = as.flatMap (Addition.clauses q.catalog false) := by
    rw [h.clauses, List.filterMap_eq_flatMap_toList]
    refine List.flatMap_congr fun a _ => ?_
    cases a <;> rfl
  by_cases hmoved : any = true ∧ ¬q.IsUniform ∧ ¬q.IsPositiveSearch
  · refine ⟨true, iff_of_true rfl hmoved, ?_⟩
    obtain ⟨rfl, hu, hp⟩ := hmoved
    rw [matching, if_pos rfl, matchAny_eq_of_mixed hu hp, h.labels, h.lines, h.clauses]
    exact perm_clauses q.catalog as
  · refine ⟨false, iff_of_false Bool.false_ne_true hmoved, ?_⟩
    have hclauses : (q.matching any).clauses = q.clauses := by
      rw [matching]
      split
      · next hany =>
        by_cases hu : q.IsUniform
        · rw [matchAny_of_isUniform hu]
        · have hp : q.IsPositiveSearch := by
            by_contra hp
            exact hmoved ⟨hany, hu, hp⟩
          rw [matchAny_of_isPositiveSearch hu hp]
      · rfl
    rw [hclauses, hkept]

/-- Each match of a group adds one thing, and the clauses of the query of the group, for all or for
any of its matches, are those that stand for what was added, in some order. The clauses of a match
that is on no label but on a name for two fields compare both fields with the same values, by the
same operators, and join the comparisons by *or*, or by *and* if the match is negated, exactly if
the match is no raw regular expression and, where its line filter is moved after the `json` stage,
what is read back of that is on the name, as it is if no atom has a quote inside. -/
theorem spells_iff {raw : String} {e : Filter.Expression} {g : Filter.Group} {options : FlowOptions}
    (hp : Filter.Expression.parse raw = .ok e) (hg : g ∈ e) (hq : ofGroup c options g = .ok q)
    (any : Bool) :
    ∃ as, List.Forall₂ (fun m a => Addition.ofMatch c m = .ok a) g as ∧
      ∃ moved : Bool, (moved = true ↔ any = true ∧ ¬q.IsUniform ∧ ¬q.IsPositiveSearch) ∧
        (q.matching any).clauses.Perm (as.flatMap (Addition.clauses c moved)) ∧
        ∀ m ∈ g, ∀ a src dst, Addition.ofMatch c m = .ok a → c.isLabel m.key = false →
          c.pair? m.key = some (src, dst) →
          ((∀ cl ∈ a.clauses c moved, cl.Spells src dst m.negated ∧
              cl.render = "(" ++ Text.join (if m.negated then " and " else " or ")
                (cl.filters.map LabelFilter.render) ++ ")") ↔
            m.regex = false ∧ (moved = true → ∀ f, a = .line f →
              ∀ l ∈ f.toLabels?.getD [], l.key = m.key)) ∧
          ((∀ atom ∈ m.atoms, '"' ∉ (Atom.unquoted atom).toList) →
            ∀ f, a = .line f → ∀ l ∈ f.toLabels?.getD [], l.key = m.key) := by
  rw [ofGroup, foldlM_addMatch] at hq
  obtain ⟨as, has, rfl⟩ := Outcome.map_eq_ok.mp hq
  have hcatalog : (as.foldl add (ofOptions c options)).catalog = c :=
    foldl_add_eq catalog_add (ofOptions c options) as
  have horder : InOrder as (as.foldl add (ofOptions c options)) := by
    have hempty : InOrder [] (ofOptions c options) := ⟨rfl, rfl, rfl⟩
    exact hempty.addAll as
  obtain ⟨moved, hmoved, hperm⟩ := clauses_matching horder any
  rw [hcatalog] at hperm
  refine ⟨as, Outcome.mapM_eq_ok.mp has, moved, hmoved, hperm, ?_⟩
  intro m hm a src dst ha hlabel hpair
  refine ⟨?_, ?_⟩
  · rw [← Addition.spells_clauses_iff hlabel hpair ha moved]
    exact forall_congr' fun cl => imp_congr_right fun _ =>
      and_iff_left_of_imp Clause.Spells.render_eq
  · rintro hquotes f rfl
    exact Addition.key_of_mem_toLabels (Filter.admitted_of_parse hp hg hm) hquotes ha

/-- A namespace on either side, and a port that is excluded on both. -/
def pairMatches : Filter.Group :=
  [{ key := "K8S_Namespace", values := "a" }, { key := "Port", values := "80", negated := true }]

/-- In the query for any of the matches, the clauses of a namespace and of an excluded port compare
the fields of both sides. -/
theorem spells_iff_excludedPort :
    Filter.Expression.parse "K8S_Namespace=a&Port!=80" = .ok [pairMatches] ∧
      ∃ q, ofGroup namespaceCatalog {} pairMatches = .ok q ∧
        ∃ as bs, (q.matching true).clauses.Perm (as ++ bs) ∧
          (∀ cl ∈ as, cl.Spells "SrcK8S_Namespace" "DstK8S_Namespace" false) ∧
          ∀ cl ∈ bs, cl.Spells "SrcPort" "DstPort" true := by
  have hp : Filter.Expression.parse "K8S_Namespace=a&Port!=80" = .ok [pairMatches] := by
    decide +kernel
  have hok : (ofGroup namespaceCatalog {} pairMatches).isOk = true := by decide +kernel
  obtain ⟨q, hq⟩ := Outcome.exists_of_isOk hok
  obtain ⟨as, has, moved, -, hperm, hspells⟩ := spells_iff hp List.mem_cons_self hq true
  obtain ⟨a, rest, ha, hrest, rfl⟩ := List.forall₂_cons_left_iff.mp has
  obtain ⟨b, none, hb, hnone, rfl⟩ := List.forall₂_cons_left_iff.mp hrest
  obtain rfl := List.forall₂_nil_left_iff.mp hnone
  refine ⟨hp, q, hq, a.clauses namespaceCatalog moved, b.clauses namespaceCatalog moved, ?_, ?_, ?_⟩
  · simpa using hperm
  · obtain ⟨hiff, hread⟩ := hspells _ List.mem_cons_self a _ _ ha (by decide) rfl
    exact fun cl hcl => (hiff.mpr ⟨rfl, fun _ => hread (by decide +kernel)⟩ cl hcl).1
  · obtain ⟨hiff, hread⟩ := hspells _ (by simp [pairMatches]) b _ _ hb (by decide) rfl
    exact fun cl hcl => (hiff.mpr ⟨rfl, fun _ => hread (by decide +kernel)⟩ cl hcl).1

/-- A raw regular expression for the namespaces of both sides. -/
def rawNamespace : Filter.Match := { key := "K8S_Namespace", values := "ab.*", regex := true }

/-- A raw regular expression for the namespaces of both sides is compared with the bare name. -/
theorem spells_bareName :
    Filter.Expression.parse "K8S_Namespace~=ab.*" = .ok [[rawNamespace]] ∧
      namespaceCatalog.isLabel rawNamespace.key = false ∧
      namespaceCatalog.pair? rawNamespace.key = some ("SrcK8S_Namespace", "DstK8S_Namespace") ∧
      ∃ q, ofGroup namespaceCatalog {} [rawNamespace] = .ok q ∧ ∀ any,
        (q.matching any).clauses = [.single (.regex "K8S_Namespace" "ab.*" false)] ∧
          ¬∀ cl ∈ (q.matching any).clauses,
            cl.Spells "SrcK8S_Namespace" "DstK8S_Namespace" rawNamespace.negated := by
  let q := (ofOptions namespaceCatalog {}).addClause
    (.single (.regex "K8S_Namespace" "ab.*" false))
  have hclauses : ∀ any, (q.matching any).clauses =
      [.single (.regex "K8S_Namespace" "ab.*" false)] := by
    intro any
    cases any with
    | true => rfl
    | false => rfl
  have hq : ofGroup namespaceCatalog {} [rawNamespace] = .ok q := rfl
  refine ⟨by decide +kernel, by decide, by decide +kernel, q, hq, fun any => ⟨hclauses any, ?_⟩⟩
  rw [hclauses any, List.forall_mem_singleton]
  exact Clause.not_spells_single

end FlowQuery

end FlowConsole.LogQL
