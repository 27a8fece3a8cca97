import FlowConsole.Proofs.LogQL.Extended
import FlowConsole.Proofs.PromQL.Extended
import FlowConsole.Proofs.Request.Metrics
import FlowConsole.Proofs.Service.Directions

/-!
# Groups in the scope of a namespace

The namespace of a request is put between quotes as it comes, and enters a match of its own. The
quotes make it a comparison with just that text, unless the text holds a comma, which cuts it into
two atoms, or a star, which stands for any text (`selects_scopeMatch_iff`). The stores read the text
of the comparison, unless it spans lines (`scan_scopeMatch_iff`), and the addresses of the queries
have the same parameters as without the namespace, unless it holds the sign that ends one
(`expand_scoped`). None of this is checked when a request is read (`scope_escaped`).
-/

open FlowConsole.Filter (Group Match)
open FlowConsole.Text (Consists)

namespace FlowConsole

namespace LogQL.Atom

private theorem inner?_exactly (text : String) :
    inner? (Reporter.exactly text).toList = some text.toList := by
  have hchars : (Reporter.exactly text).toList = '"' :: (text.toList ++ ['"']) := by
    simp [Reporter.exactly]
  rw [hchars, inner?, if_pos (by simp), List.dropLast_concat]

/-- A text between quotes is unquoted to itself. -/
theorem unquoted?_exactly (text : String) : unquoted? (Reporter.exactly text) = some text := by
  rw [unquoted?, inner?_exactly, Option.map_some, String.ofList_toList]

/-- A text between quotes is exact unless it holds a star. -/
theorem isExact_exactly (text : String) :
    isExact (Reporter.exactly text) = true ↔ '*' ∉ text.toList := by
  rw [isExact, inner?_exactly, Option.any_some, Bool.not_eq_true', ← Bool.not_eq_true,
    List.contains_iff_mem]

/-- A quote in front of less than a text makes an atom that selects another text, too. -/
theorem exists_selects_ne {k : CaseFolding} {start : List Char} {text : String}
    (h : start.length < text.toList.length) :
    ∃ other, other ≠ text ∧ Selects k false (String.ofList ('"' :: start)) other := by
  cases hatom : unquoted? (String.ofList ('"' :: start)) with
  | some inner =>
    -- what is between the quotes is shorter than the text
    have hstart : start = inner.toList ++ ['"'] := by
      have hchars := toList_of_unquoted? hatom
      rw [String.toList_ofList] at hchars
      exact List.tail_eq_of_cons_eq hchars
    have hlength : inner.toList.length < text.toList.length := by
      rw [hstart, List.length_append, List.length_singleton] at h
      omega
    refine ⟨String.ofList (inner.toList.filter (· ≠ '*')), ?_, ?_⟩
    · intro hsame
      have hshort := List.length_filter_le (fun c : Char => decide (c ≠ '*')) inner.toList
      rw [← hsame, String.toList_ofList] at hlength
      omega
    · rw [Selects, hatom, String.toList_ofList]
      exact fits_withoutStars false inner.toList
  | none =>
    -- anything may follow what fits, so texts of more than one length are selected
    have hselects (rest : List Char) (hrest : '\n' ∉ rest) :
        Selects k false (String.ofList ('"' :: start))
          (String.ofList (('*' :: '"' :: start).filter (· ≠ '*') ++ rest)) := by
      rw [Selects, hatom, String.toList_ofList, String.toList_ofList]
      exact (fits_withoutStars true ('*' :: '"' :: start)).append (fits_star hrest)
    by_cases hsame : String.ofList (('*' :: '"' :: start).filter (· ≠ '*') ++ []) = text
    · refine ⟨_, ?_, hselects ['x'] (by decide)⟩
      intro hmore
      have hlists := String.ofList_injective (hmore.trans hsame.symm)
      exact absurd (List.append_cancel_left hlists) (List.cons_ne_nil _ _)
    · exact ⟨_, hsame, hselects [] List.not_mem_nil⟩

end LogQL.Atom

namespace Service.State

variable {name field : String}

/-! ### The comparison with a namespace -/

private theorem toList_values (name field : String) :
    (scopeMatch name field).values.toList = '"' :: (name.toList ++ ['"']) := by
  simp [scopeMatch]

/-- A namespace without commas is one atom. -/
theorem atoms_of_not_mem (field : String) (h : ',' ∉ name.toList) :
    (scopeMatch name field).atoms = [Reporter.exactly name] := by
  have hvalues : ',' ∉ (scopeMatch name field).values.toList := by
    rw [toList_values]
    simp [h]
  rw [Match.atoms, Text.split, Text.pieces_of_not_mem hvalues, List.map_singleton,
    String.ofList_toList]
  rfl

/-- A namespace with commas has a first atom with a quote and less than the namespace, and more
atoms. -/
theorem exists_atoms_of_mem (field : String) (h : ',' ∈ name.toList) :
    ∃ start atom atoms, start.length < name.toList.length ∧
      (scopeMatch name field).atoms = String.ofList ('"' :: start) :: atom :: atoms := by
  obtain ⟨start, rest, hname, hstart⟩ := List.eq_append_cons_of_mem h
  have hvalues : (scopeMatch name field).values.toList =
      ('"' :: start) ++ ',' :: (rest ++ ['"']) := by
    rw [toList_values, hname]
    simp
  have hquoted : ',' ∉ '"' :: start := by
    simpa using hstart
  have hlength : start.length < name.toList.length := by
    rw [hname, List.length_append, List.length_cons]
    omega
  have hatoms : (scopeMatch name field).atoms =
      String.ofList ('"' :: start) :: (Text.pieces ',' (rest ++ ['"'])).map String.ofList := by
    rw [Match.atoms, Text.split, hvalues, Text.pieces_append_sep hquoted, List.map_cons]
  cases hpieces : Text.pieces ',' (rest ++ ['"']) with
  | nil => exact absurd hpieces (Text.pieces_ne_nil _ _)
  | cons piece pieces =>
    rw [hpieces] at hatoms
    exact ⟨start, _, _, hlength, hatoms⟩

/-- A namespace without commas and stars is compared as a text. -/
theorem comparison_of_exact (field : String) (hcomma : ',' ∉ name.toList)
    (hstar : '*' ∉ name.toList) :
    (scopeMatch name field).comparison = .text field name false := by
  have hexact : LogQL.Atom.isExact (Reporter.exactly name) = true :=
    (LogQL.Atom.isExact_exactly name).mpr hstar
  change LogQL.LabelFilter.ofAtoms field (scopeMatch name field).atoms false = _
  rw [atoms_of_not_mem field hcomma, LogQL.LabelFilter.ofAtoms, if_pos hexact,
    LogQL.Atom.unquoted?_exactly, Option.getD_some]

/-- A namespace with a comma or a star is compared by an expression. -/
theorem comparison_of_not_exact (field : String) (h : ¬(',' ∉ name.toList ∧ '*' ∉ name.toList)) :
    (scopeMatch name field).comparison = .anyOf field (scopeMatch name field).atoms false := by
  change LogQL.LabelFilter.ofAtoms field (scopeMatch name field).atoms false = _
  by_cases hcomma : ',' ∈ name.toList
  · obtain ⟨start, atom, atoms, -, hatoms⟩ := exists_atoms_of_mem field hcomma
    rw [hatoms]
    rfl
  · have hexact : ¬LogQL.Atom.isExact (Reporter.exactly name) = true := by
      rw [LogQL.Atom.isExact_exactly]
      exact fun hstar => h ⟨hcomma, hstar⟩
    rw [atoms_of_not_mem field hcomma, LogQL.LabelFilter.ofAtoms, if_neg hexact]

/-- The scope of a namespace selects what its atoms select. -/
theorem selects_scopeMatch (name field : String) (engine : Regex.Engine) (text : String) :
    (scopeMatch name field).comparison.Selects engine text ↔
      LogQL.Atom.SelectsAny engine.folding false (scopeMatch name field).atoms text :=
  LogQL.LabelFilter.selects_ofAtoms_iff (scopeMatch name field).atoms_ne_nil false

/-- The scope of a namespace without commas selects the texts that the namespace fits, with regard
to case. -/
theorem selects_iff_fits (field : String) (engine : Regex.Engine) (h : ',' ∉ name.toList)
    (text : String) :
    (scopeMatch name field).comparison.Selects engine text ↔
      LogQL.Atom.Fits engine.folding false name.toList text.toList := by
  rw [selects_scopeMatch, atoms_of_not_mem field h, LogQL.Atom.SelectsAny, LogQL.Atom.SelectsAny,
    or_false, LogQL.Atom.Selects, LogQL.Atom.unquoted?_exactly]

/-- The scope of a namespace with commas selects a text that is not the namespace. -/
theorem exists_selects_of_comma (field : String) (engine : Regex.Engine) (h : ',' ∈ name.toList) :
    ∃ other, other ≠ name ∧ (scopeMatch name field).comparison.Selects engine other := by
  obtain ⟨start, atom, atoms, hlength, hatoms⟩ := exists_atoms_of_mem field h
  obtain ⟨other, hne, hother⟩ :=
    LogQL.Atom.exists_selects_ne (k := engine.folding) hlength
  refine ⟨other, hne, ?_⟩
  rw [selects_scopeMatch, hatoms]
  exact .inl hother

/-- The scope of a namespace is a comparison with just that text exactly if the text has neither
commas nor stars. -/
theorem selects_scopeMatch_iff (name field : String) (engine : Regex.Engine) :
    (∀ text, (scopeMatch name field).comparison.Selects engine text ↔ text = name) ↔
      ',' ∉ name.toList ∧ '*' ∉ name.toList := by
  constructor
  · intro h
    have hcomma : ',' ∉ name.toList := by
      intro hcomma
      obtain ⟨other, hne, hother⟩ := exists_selects_of_comma field engine hcomma
      exact hne ((h other).mp hother)
    refine ⟨hcomma, fun hstar => ?_⟩
    -- the text without its stars is selected, so it is the text
    have hselects : (scopeMatch name field).comparison.Selects engine
        (String.ofList (name.toList.filter (· ≠ '*'))) := by
      rw [selects_iff_fits field engine hcomma, String.toList_ofList]
      exact LogQL.Atom.fits_withoutStars false name.toList
    rw [← (h _).mp hselects, String.toList_ofList] at hstar
    simp at hstar
  · rintro ⟨hcomma, hstar⟩ text
    rw [selects_iff_fits field engine hcomma, LogQL.Atom.fits_iff_eq hstar, String.toList_inj]

/-- The stores read the scope of a namespace as a comparison with just its text exactly if the text
is on one line and has neither commas nor stars. -/
theorem scan_scopeMatch_iff (name : String) (hfield : field ∈ namespaceFields) :
    LogQL.scan (scopeMatch name field).comparison.render = some (field ++ "=", [name]) ↔
      ',' ∉ name.toList ∧ '*' ∉ name.toList ∧ '\n' ∉ name.toList := by
  have hcode (sign : LogQL.Operator) :
      Consists LogQL.Token.isCodeChar (field ++ sign.sign) := by
    revert field
    cases sign <;> decide
  by_cases hexact : ',' ∉ name.toList ∧ '*' ∉ name.toList
  · have hscan := LogQL.scan_render_text (f := .text field name false) rfl (hcode .equal)
    rw [comparison_of_exact field hexact.1 hexact.2, hscan, ← and_assoc, and_iff_right hexact]
    split
    · next hline =>
      exact iff_of_false (by simp) (fun h => h hline)
    · next hline =>
      exact iff_of_true rfl hline
  · have hscan := LogQL.scan_render_text
      (f := .anyOf field (scopeMatch name field).atoms false) rfl (hcode .matching)
    rw [comparison_of_not_exact field hexact, hscan, ← and_assoc]
    refine iff_of_false ?_ (fun h => hexact h.1)
    split
    · simp
    · intro h
      have hsign : field ++ "=~" = field ++ "=" := congrArg Prod.fst (Option.some_inj.mp h)
      exact absurd ((String.append_right_inj field).mp hsign) (by decide)

/-! ### The sign between parameters -/

/-- The text of the scope of a namespace holds the sign between parameters if the namespace does. -/
theorem amp_mem_scopeMatch (name : String) (hfield : field ∈ namespaceFields) :
    '&' ∈ (scopeMatch name field).comparison.render.toList ↔ '&' ∈ name.toList := by
  have hkey : '&' ∉ (scopeMatch name field).key.toList := by
    change '&' ∉ field.toList
    revert field
    decide
  rw [LogQL.amp_mem_comparison, or_iff_right hkey, toList_values]
  simp

/-- The text of the scope of a namespace neither starts nor ends with the sign between
parameters. -/
theorem isFramed_scopeMatch (name : String) (hfield : field ∈ namespaceFields) :
    PromQL.IsFramed (scopeMatch name field).comparison.render := by
  have hkey : field ≠ "" ∧ field.toList.head? ≠ some '&' := by
    revert field
    decide
  exact PromQL.isFramed_comparison hkey.1 hkey.2

/-- Nothing in an admitted match ends a parameter. -/
theorem amp_not_mem_of_admitted {m : Match} (h : m.Admitted) :
    '&' ∉ m.key.toList ∧ '&' ∉ m.values.toList := by
  constructor
  · exact Url.amp_not_mem_of_consists h.key_chars (by simp [Filter.isKeyRest, Text.isAsciiWord])
  · exact Url.amp_not_mem_of_consists h.values (by simp [Filter.isValueChar, Text.isAsciiWord])

/-- No label that a request groups by ends a parameter. -/
theorem amp_not_mem_labels {r : Request.Metrics} (hr : r.Sound) :
    ∀ l ∈ r.metric.aggregate.labels, '&' ∉ l.toList := fun l hl =>
  Url.amp_not_mem_of_consists (hr.labels l hl) (by decide)

/-- The rate interval of a request does not end a parameter. -/
theorem amp_not_mem_rateInterval {r : Request.Metrics} (hr : r.Sound) :
    '&' ∉ r.metric.rateInterval.toList :=
  Url.amp_not_mem_of_consists hr.rateInterval (by decide)

/-- Nothing in the groups of a request that is read ends a parameter, before they are scoped. -/
theorem isInner_of_mem_expand {r : Request.Metrics} (hr : r.Sound) {isHandled : Group → Bool}
    {g : Group} (hg : g ∈ Reporter.expand (withLayer r) none isHandled) : PromQL.IsInner g := by
  have hlayer : ∀ h ∈ withLayer r, PromQL.IsInner h := by
    intro h hh
    have hfilters : ∀ h ∈ r.filters, PromQL.IsInner h := fun h hh m hm =>
      amp_not_mem_of_admitted (hr.filters h hh m hm)
    rw [withLayer] at hh
    split at hh
    · exact hfilters h hh
    · next layer hlayer =>
      obtain ⟨h', hh', hh⟩ := List.mem_flatMap.mp hh
      rw [if_neg Bool.false_ne_true, List.map_singleton, List.mem_singleton] at hh
      rw [hh]
      refine List.forall_mem_append.mpr ⟨?_, hfilters h' hh'⟩
      cases layer <;> decide
  rcases mem_splitDirections.mp hg with ⟨hmem, -⟩ | ⟨h, hh, -, half, hhalf, rfl⟩
  · exact hlayer g hmem
  · have hinner : ∀ half ∈ [Reporter.received, Reporter.sent], PromQL.IsInner half := by
      rw [List.forall_mem_cons, List.forall_mem_singleton]
      exact ⟨by decide, by decide⟩
    exact List.forall_mem_append.mpr ⟨hinner half hhalf, hlayer h hh⟩

/-! ### Queries in the scope of a namespace -/

/-- The address of the query of a metric has parameters of the same names for a group and for the
group in the scope of a namespace exactly if the namespace does not end a parameter. -/
theorem parameterNames_url_scopeMatch {r : Request.Metrics} (hr : r.Sound) {g : Group}
    (hg : PromQL.IsInner g) (name : String) (hfield : field ∈ namespaceFields) {base u : String}
    {x : PromQL.MetricInfo} (hx : '&' ∉ x.name.toList)
    (hu : PromQL.url base x g r.metric r.promWindow = .ok u) :
    ∃ v, PromQL.url base x (scopeMatch name field :: g) r.metric r.promWindow = .ok v ∧
      (Url.parameterNames v = Url.parameterNames u ↔ '&' ∉ name.toList) := by
  rw [← amp_mem_scopeMatch name hfield]
  exact PromQL.parameterNames_url_cons rfl (ne_flowDirection hfield)
    (isFramed_scopeMatch name hfield) hx (amp_not_mem_labels hr) (amp_not_mem_rateInterval hr) hg hu

/-- The address of the query of a group at the log store has parameters of the same names with the
scope of a namespace and without it exactly if the namespace does not end a parameter. -/
theorem parameterNames_url_withScope {r : Request.Metrics} (hr : r.Sound) {g : Group}
    (name : String) (hfield : field ∈ namespaceFields) {catalog : Catalog}
    {q : LogQL.TopologyQuery} (hq : LogQL.TopologyQuery.ofGroup catalog r.flow r.metric g = .ok q)
    (base : String) :
    ∃ u v, q.url base = .ok u ∧
      (q.withLabel (scopeMatch name field).comparison).url base = .ok v ∧
      (Url.parameterNames v = Url.parameterNames u ↔ '&' ∉ name.toList) := by
  obtain ⟨hfixed, -, hmetric⟩ := LogQL.TopologyQuery.fixed_ofGroup hq
  rw [← amp_mem_scopeMatch name hfield]
  apply LogQL.TopologyQuery.parameterNames_url_withLabel base
  · rw [hmetric]
    exact amp_not_mem_labels hr
  · rw [hfixed]
    exact LogQL.FlowQuery.amp_not_mem_fixedLabels catalog r.flow
  · rw [hfixed]
    exact List.cons_ne_nil _ _
  · exact (isFramed_scopeMatch name hfield).2

/-- With a namespace, each group of a split expression is scoped to the source and then to the
destination, and nothing else in it changes: its queries compare one more label, with just the text
of the namespace if that has neither commas nor stars, and is on one line. The addresses of the
queries have parameters of the same names exactly if the namespace holds no sign that ends a
parameter; this takes a metric whose name holds none, and a log store that has the field as a
label. -/
theorem expand_scoped {ps : Request.Parameters} {now : Int} {r : Request.Metrics} {name : String}
    (hread : Request.Metrics.read ps now = .ok r) (hname : r.namespaceName = some name)
    (isHandled : Group → Bool) :
    name ≠ "" ∧
      Reporter.expand (withLayer r) r.namespaceName isHandled =
        (Reporter.expand (withLayer r) none isHandled).flatMap
          (fun g => namespaceFields.map fun field => scopeMatch name field :: g) ∧
      ∀ g ∈ Reporter.expand (withLayer r) none isHandled, ∀ field ∈ namespaceFields,
        (∀ engine : Regex.Engine,
          (∀ text, (scopeMatch name field).comparison.Selects engine text ↔ text = name) ↔
            ',' ∉ name.toList ∧ '*' ∉ name.toList) ∧
        (LogQL.scan (scopeMatch name field).comparison.render = some (field ++ "=", [name]) ↔
          ',' ∉ name.toList ∧ '*' ∉ name.toList ∧ '\n' ∉ name.toList) ∧
        (∀ direction, PromQL.matchers direction (scopeMatch name field :: g) =
          (PromQL.matchers direction g).map fun fs => (scopeMatch name field).comparison :: fs) ∧
        (∀ base (x : PromQL.MetricInfo) u, '&' ∉ x.name.toList →
          PromQL.url base x g r.metric r.promWindow = .ok u →
          ∃ v, PromQL.url base x (scopeMatch name field :: g) r.metric r.promWindow = .ok v ∧
            (Url.parameterNames v = Url.parameterNames u ↔ '&' ∉ name.toList)) ∧
        ∀ (catalog : Catalog) q, catalog.isLabel field = true →
          LogQL.TopologyQuery.ofGroup catalog r.flow r.metric g = .ok q →
          LogQL.TopologyQuery.ofGroup catalog r.flow r.metric (scopeMatch name field :: g) =
              .ok (q.withLabel (scopeMatch name field).comparison) ∧
            ∀ base, ∃ u v, q.url base = .ok u ∧
              (q.withLabel (scopeMatch name field).comparison).url base = .ok v ∧
              (Url.parameterNames v = Url.parameterNames u ↔ '&' ∉ name.toList) := by
  obtain ⟨hsound, hgiven⟩ := Request.Metrics.sound_of_read hread
  refine ⟨?_, by rw [hname]; rfl, fun g hg field hfield => ?_⟩
  · rw [hgiven] at hname
    simpa using (Option.filter_eq_some_iff.mp hname).2
  · have hinner : PromQL.IsInner g := isInner_of_mem_expand hsound hg
    refine ⟨selects_scopeMatch_iff name field, scan_scopeMatch_iff name hfield,
      fun direction => ?_, fun base x u hx hu => ?_, fun catalog q hlabel hq => ⟨?_, ?_⟩⟩
    · exact PromQL.matchers_cons rfl (ne_flowDirection hfield) g
    · exact parameterNames_url_scopeMatch hsound hinner name hfield hx hu
    · exact LogQL.TopologyQuery.ofGroup_cons rfl rfl hlabel hq
    · exact parameterNames_url_withScope hsound name hfield hq

/-- The parameters of a request for bytes in a namespace. -/
def namespaceParameters (name : String) : Request.Parameters :=
  [("type", "Bytes"), ("aggregateBy", "namespace"), ("namespace", name)]

/-- A namespace without special characters is compared, and read, as it is, and adds no parameter to
the addresses of either store. -/
theorem expand_scoped_plainName :
    ∃ r, Request.Metrics.read (namespaceParameters "ns") 0 = .ok r ∧
      r.namespaceName = some "ns" ∧
      Reporter.received ∈ Reporter.expand (withLayer r) none (fun _ => false) ∧
      (∀ (engine : Regex.Engine) text,
        (scopeMatch "ns" Field.sourceNamespace).comparison.Selects engine text ↔ text = "ns") ∧
      LogQL.scan (scopeMatch "ns" Field.sourceNamespace).comparison.render =
        some ("SrcK8S_Namespace=", ["ns"]) ∧
      (∃ u v, PromQL.url "http://prom:9090" PromQL.sentBytes Reporter.received r.metric
          r.promWindow = .ok u ∧
        PromQL.url "http://prom:9090" PromQL.sentBytes
          (scopeMatch "ns" Field.sourceNamespace :: Reporter.received) r.metric r.promWindow =
            .ok v ∧
        Url.parameterNames v = Url.parameterNames u) ∧
      ∃ q u v, LogQL.TopologyQuery.ofGroup namespaceState.config.catalog r.flow r.metric
          Reporter.received = .ok q ∧
        q.url "http://loki:3100" = .ok u ∧
        (q.withLabel (scopeMatch "ns" Field.sourceNamespace).comparison).url "http://loki:3100" =
          .ok v ∧
        Url.parameterNames v = Url.parameterNames u := by
  have hdecided : ((Request.Metrics.read (namespaceParameters "ns") 0).map fun r =>
      decide (Reporter.received ∈ Reporter.expand (withLayer r) none fun _ => false)).toOption =
        some true := by
    decide +kernel
  cases hread : Request.Metrics.read (namespaceParameters "ns") 0 with
  | error e =>
    rw [hread] at hdecided
    cases hdecided
  | ok r =>
    rw [hread] at hdecided
    have hreceived : Reporter.received ∈ Reporter.expand (withLayer r) none fun _ => false :=
      of_decide_eq_true (Option.some_inj.mp hdecided)
    have hname : r.namespaceName = some "ns" := (Request.Metrics.sound_of_read hread).2
    obtain ⟨hselects, hscan, -, hprom, hloki⟩ :=
      (expand_scoped hread hname fun _ => false).2.2 _ hreceived Field.sourceNamespace (by decide)
    have hamp : '&' ∉ "ns".toList := by decide
    have hu : PromQL.url "http://prom:9090" PromQL.sentBytes Reporter.received r.metric
        r.promWindow = .ok _ :=
      PromQL.url_eq rfl rfl
    obtain ⟨v, hv, hnames⟩ := hprom _ _ _ (by decide) hu
    have hq : LogQL.TopologyQuery.ofGroup namespaceState.config.catalog r.flow r.metric
        Reporter.received = .ok _ :=
      LogQL.TopologyQuery.ofGroup_cons rfl rfl (by decide +kernel) rfl
    obtain ⟨u', v', hu', hv', hnames'⟩ :=
      (hloki _ _ (by decide +kernel) hq).2 "http://loki:3100"
    refine ⟨r, rfl, hname, hreceived, fun engine => (hselects engine).mpr (by decide),
      hscan.mpr (by decide), ⟨_, v, hu, hv, hnames.mpr hamp⟩, ?_⟩
    exact ⟨_, u', v', hq, hu', hv', hnames'.mpr hamp⟩

private theorem exists_read (name : String)
    (h : (Request.Metrics.read (namespaceParameters name) 0).isOk = true) (hne : name ≠ "") :
    ∃ r, Request.Metrics.read (namespaceParameters name) 0 = .ok r ∧
      r.namespaceName = some name := by
  obtain ⟨r, hr⟩ := Outcome.exists_of_isOk h
  refine ⟨r, hr, ?_⟩
  rw [(Request.Metrics.sound_of_read hr).2]
  simp [Request.Parameters.given?, Request.Parameters.get?, namespaceParameters, List.lookup_cons,
    hne]

/-- Namespaces that are read escape their scope: one with a comma is compared with other texts, one
that is a star allows for the namespace of the cluster, and one with the sign between parameters
adds a parameter. -/
theorem scope_escaped :
    (∃ r, Request.Metrics.read (namespaceParameters "a,b") 0 = .ok r ∧
      r.namespaceName = some "a,b" ∧ ∀ engine : Regex.Engine, ∃ other, other ≠ "a,b" ∧
        (scopeMatch "a,b" Field.sourceNamespace).comparison.Selects engine other) ∧
    (∃ r, Request.Metrics.read (namespaceParameters "*") 0 = .ok r ∧
      r.namespaceName = some "*" ∧ ∀ engine : Regex.Engine,
        (scopeMatch "*" Field.sourceNamespace).comparison.Selects engine "kube-system") ∧
    ∃ r u v, Request.Metrics.read (namespaceParameters "a&b") 0 = .ok r ∧
      r.namespaceName = some "a&b" ∧
      PromQL.url "http://prom:9090" PromQL.sentBytes [] r.metric r.promWindow = .ok u ∧
      PromQL.url "http://prom:9090" PromQL.sentBytes [scopeMatch "a&b" Field.sourceNamespace]
        r.metric r.promWindow = .ok v ∧
      Url.parameterNames v ≠ Url.parameterNames u := by
  refine ⟨?_, ?_, ?_⟩
  · obtain ⟨r, hread, hname⟩ := exists_read "a,b" (by decide +kernel) (by decide)
    exact ⟨r, hread, hname, fun engine => exists_selects_of_comma _ engine (by decide)⟩
  · obtain ⟨r, hread, hname⟩ := exists_read "*" (by decide +kernel) (by decide)
    refine ⟨r, hread, hname, fun engine => ?_⟩
    rw [selects_iff_fits _ engine (by decide)]
    exact LogQL.Atom.fits_star (by decide)
  · obtain ⟨r, hread, hname⟩ := exists_read "a&b" (by decide +kernel) (by decide)
    have hsound := (Request.Metrics.sound_of_read hread).1
    have hu : PromQL.url "http://prom:9090" PromQL.sentBytes [] r.metric r.promWindow = .ok _ :=
      PromQL.url_eq rfl rfl
    have hfield : Field.sourceNamespace ∈ namespaceFields := by decide
    obtain ⟨v, hv, hnames⟩ :=
      parameterNames_url_scopeMatch hsound (by decide) "a&b" hfield (by decide) hu
    refine ⟨r, _, v, hread, hname, hu, hv, ?_⟩
    rw [Ne, hnames]
    decide

end Service.State

end FlowConsole
