import FlowConsole.Proofs.LogQL.Regular

/-!
# Flow queries keep to their literals

A flow query that was built from a filter expression is regular, whatever was written in the
expression, and so is the query for any of its matches. So its text scans to its literals, unless a
match is compared with an address that holds a quote (`scan_body`); in such an address, the quote
ends the literal (`scan_address_quote`).
-/

open FlowConsole.Text (Consists)

namespace FlowConsole.LogQL.FlowQuery

open Token (isCodeChar isLiteralChar)

variable {q : FlowQuery}

/-! ### Queries of matches -/

/-- The match is one that is compared with addresses. -/
def comparesAddress (c : Catalog) (m : Filter.Match) : Bool :=
  !m.regex && !m.atLeast && !c.isLabel m.key && !isLabelledPair c m.key && c.isAddress m.key

/-- The match is compared with an address that holds a quote. -/
def HoldsQuote (c : Catalog) (m : Filter.Match) : Prop :=
  comparesAddress c m = true ∧ ∃ atom ∈ m.atoms, '"' ∈ (Atom.unquoted atom).toList

/-- The fields that a key stands for are the key after the word for a side. -/
theorem eq_of_pair? {c : Catalog} {key src dst : String} (h : c.pair? key = some (src, dst)) :
    src = Field.source ++ key ∧ dst = Field.destination ++ key := by
  rw [Catalog.pair?] at h
  dsimp only at h
  split_ifs at h
  cases h
  exact ⟨rfl, rfl⟩

private theorem name_of_pair {c : Catalog} {key src dst : String}
    (hk : Consists Recovered.isNameChar key) (h : c.pair? key = some (src, dst)) :
    Consists Recovered.isNameChar src ∧ Consists Recovered.isNameChar dst := by
  obtain ⟨rfl, rfl⟩ := eq_of_pair? h
  exact ⟨Text.consists_append.mpr ⟨by decide, hk⟩, Text.consists_append.mpr ⟨by decide, hk⟩⟩

/-- The fields of a name have names. -/
theorem name_of_mem_fieldsOf {c : Catalog} {key field : String}
    (hk : Consists Recovered.isNameChar key) (h : field ∈ fieldsOf c key) :
    Consists Recovered.isNameChar field := by
  rw [fieldsOf] at h
  split at h
  · next src dst hp =>
    have hn := name_of_pair hk hp
    rw [List.mem_cons, List.mem_singleton] at h
    rcases h with rfl | rfl
    · exact hn.1
    · exact hn.2
  · rw [List.mem_singleton.mp h]
    exact hk

/-- The fields that a key stands for are looked for by it: they end with the key, and are the key
where it is matched from its start. -/
theorem ends_of_mem_fieldsOf {c : Catalog} {key field : String} (h : field ∈ fieldsOf c key) :
    if c.needsStrictKey key then field = key else key.toList <:+ field.toList := by
  rw [fieldsOf] at h
  cases hpair : c.pair? key with
  | none =>
    rw [hpair, List.mem_singleton] at h
    rw [h]
    split
    · rfl
    · exact List.suffix_refl _
  | some p =>
    obtain ⟨src, dst⟩ := p
    obtain ⟨rfl, rfl⟩ := eq_of_pair? hpair
    have hstrict : c.needsStrictKey key = false := by
      rw [Catalog.needsStrictKey, hpair]
      rfl
    rw [hpair, List.mem_cons, List.mem_singleton] at h
    rw [hstrict]
    rcases h with h | h <;> simp [h]

/-- A name stands for at least one field. -/
theorem fieldsOf_ne_nil (c : Catalog) (key : String) : fieldsOf c key ≠ [] := by
  rw [fieldsOf]
  split <;> exact List.cons_ne_nil _ _

/-- The filters that compare the fields with the atoms of a match as addresses. -/
def addressFilters (fields : List String) (m : Filter.Match) : List LabelFilter :=
  fields.flatMap fun field =>
    m.atoms.map fun atom => .address field (Atom.unquoted atom) m.negated

private theorem regular_addressFilters {m : Filter.Match} (hm : m.Admitted) {fields : List String}
    (hf : ∀ field ∈ fields, Consists Recovered.isNameChar field) :
    ∀ f ∈ addressFilters fields m, f.Regular := by
  intro f hmem
  obtain ⟨field, hfield, hmem⟩ := List.mem_flatMap.mp hmem
  obtain ⟨atom, hatom, rfl⟩ := List.mem_map.mp hmem
  have ha : Consists Token.isBareChar atom :=
    (hm.atom_chars hatom).mono fun _ => isBareChar_of_isValueChar
  exact ⟨hf field hfield, consists_unquoted ha⟩

private theorem broken_addressFilters {m : Filter.Match} {fields : List String}
    (hf : fields ≠ []) :
    (∃ f ∈ addressFilters fields m, f.Broken) ↔
      ∃ atom ∈ m.atoms, '"' ∈ (Atom.unquoted atom).toList := by
  constructor
  · rintro ⟨f, hmem, -, hq⟩
    obtain ⟨field, -, hmem⟩ := List.mem_flatMap.mp hmem
    obtain ⟨atom, hatom, rfl⟩ := List.mem_map.mp hmem
    exact ⟨atom, hatom, hq⟩
  · rintro ⟨atom, hatom, hq⟩
    obtain ⟨field, hfield⟩ := List.exists_mem_of_ne_nil _ hf
    exact ⟨_, List.mem_flatMap.mpr ⟨field, hfield, List.mem_map.mpr ⟨atom, hatom, rfl⟩⟩, rfl, hq⟩

private theorem not_holdsQuote {c : Catalog} {m : Filter.Match} (h : comparesAddress c m = false) :
    ¬HoldsQuote c m := by
  rintro ⟨hc, -⟩
  rw [h] at hc
  cases hc

-- A clause without addresses that is added for a match that is compared with none.
private theorem unbroken_clause {c : Catalog} {m : Filter.Match} {fs : List LabelFilter}
    (hf : ∀ f ∈ fs, f.Regular ∧ ¬f.Broken) (hm : ¬HoldsQuote c m) :
    (∀ f ∈ fs, f.Regular) ∧ ((∃ f ∈ fs, f.Broken) ↔ HoldsQuote c m) := by
  refine ⟨fun f h => (hf f h).1, iff_of_false ?_ hm⟩
  rintro ⟨f, h, hb⟩
  exact (hf f h).2 hb

/-- What an admitted match adds: a label filter, a line filter or a clause, all of them regular. It
adds an address that holds a quote exactly if it is compared with one. -/
theorem addMatch_cases {m : Filter.Match} {q' : FlowQuery} (hm : m.Admitted)
    (h : q.addMatch m = .ok q') :
    (∃ f, q' = q.addLabel f ∧ f.Regular ∧ ¬f.Broken ∧ ¬HoldsQuote q.catalog m) ∨
      (∃ f, q' = q.addLine f ∧ f.Regular ∧ ¬HoldsQuote q.catalog m) ∨
      ∃ c, q' = q.addClause c ∧ (∀ f ∈ c.filters, f.Regular) ∧
        ((∃ f ∈ c.filters, f.Broken) ↔ HoldsQuote q.catalog m) := by
  have hkey : Consists Recovered.isNameChar m.key :=
    hm.key_chars.mono fun _ => isNameChar_of_isKeyRest
  have hvalues : Consists isLiteralChar m.values :=
    hm.values.mono fun _ hc => isLiteralChar_of_isBareChar (isBareChar_of_isValueChar hc)
  have hatoms : ∀ atom ∈ m.atoms, Consists isLiteralChar atom :=
    fun _ ha => hvalues.of_mem_split ha
  have hfields : ∀ field ∈ fieldsOf q.catalog m.key, Consists Recovered.isNameChar field :=
    fun _ hf => name_of_mem_fieldsOf hkey hf
  have hline : (lineOf q.catalog m).map q.addLine = .ok q' →
      ∃ f, q' = q.addLine f ∧ f.Regular := by
    intro h
    obtain ⟨f, hf, rfl⟩ := Outcome.map_eq_ok.mp h
    exact ⟨f, rfl, LineFilter.regular_ofAtoms hkey hatoms hf⟩
  -- one case for each route, in the order in which they are tried
  rw [addMatch] at h
  dsimp only at h
  split_ifs at h with hregex hlabel hatLeast hlabel hpair haddress hempty
  · cases h
    have hf := LabelFilter.regular_regex hkey hvalues m.negated
    exact .inl ⟨_, rfl, hf.1, hf.2, not_holdsQuote (by simp [comparesAddress, hregex])⟩
  · cases h
    have hf := LabelFilter.regular_regex hkey hvalues m.negated
    exact .inr (.inr ⟨_, rfl, unbroken_clause (List.forall_mem_singleton.mpr hf)
      (not_holdsQuote (by simp [comparesAddress, hregex]))⟩)
  · obtain ⟨f, hq, hf⟩ := hline h
    exact .inr (.inl ⟨f, hq, hf, not_holdsQuote (by simp [comparesAddress, hatLeast])⟩)
  · cases h
    have hf := LabelFilter.regular_ofAtoms hkey hatoms m.negated
    exact .inl ⟨_, rfl, hf.1, hf.2, not_holdsQuote (by simp [comparesAddress, hlabel])⟩
  · cases h
    refine .inr (.inr ⟨_, rfl, unbroken_clause ?_
      (not_holdsQuote (by simp [comparesAddress, hpair]))⟩)
    exact List.forall_mem_map.mpr fun field hf =>
      LabelFilter.regular_ofAtoms (hfields field hf) hatoms m.negated
  · cases h
    have hcompares : comparesAddress q.catalog m = true := by
      simp [comparesAddress, hregex, hatLeast, hlabel, hpair, haddress]
    refine .inr (.inr ⟨_, rfl, regular_addressFilters hm hfields, ?_⟩)
    rw [HoldsQuote, and_iff_right hcompares]
    exact broken_addressFilters (fieldsOf_ne_nil q.catalog m.key)
  · cases h
    refine .inr (.inr ⟨_, rfl, unbroken_clause ?_
      (not_holdsQuote (by simp [comparesAddress, haddress]))⟩)
    exact List.forall_mem_map.mpr fun field hf =>
      LabelFilter.regular_anyOf (hfields field hf) hatoms m.negated
  · obtain ⟨f, hq, hf⟩ := hline h
    exact .inr (.inl ⟨f, hq, hf, not_holdsQuote (by simp [comparesAddress, haddress])⟩)

/-- An admitted match keeps a query regular, and breaks it exactly if it is compared with an address
that holds a quote. -/
theorem Regular.addMatch {m : Filter.Match} {q' : FlowQuery} (hq : q.Regular) (hm : m.Admitted)
    (h : q.addMatch m = .ok q') :
    q'.catalog = q.catalog ∧ q'.Regular ∧ (q'.Broken ↔ q.Broken ∨ HoldsQuote q.catalog m) := by
  -- each kind of part lands in one list, so only that list's filters have to be looked at
  rcases addMatch_cases hm h with ⟨f, rfl, hf, hb, hquote⟩ | ⟨f, rfl, hf, hquote⟩ | ⟨c, rfl, hc, hb⟩
  · have hmem : ∀ g, g ∈ (q.addLabel f).labelFilters ↔ g ∈ q.labelFilters ∨ g = f := by
      intro g
      simp only [labelFilters, addLabel, List.mem_append, List.mem_singleton]
      tauto
    refine ⟨rfl, ⟨hq.selects, ?_, hq.lines⟩, ?_⟩
    · intro g hg
      rcases (hmem g).mp hg with hg | rfl
      · exact hq.labels g hg
      · exact hf
    · rw [or_iff_left hquote, Broken, Broken]
      simp only [hmem, or_and_right, exists_or, exists_eq_left, or_iff_left hb]
  · refine ⟨rfl, ⟨hq.selects, hq.labels, ?_⟩, ?_⟩
    · intro g hg
      rw [lineFilters, addLine, ← List.append_assoc, List.mem_append, List.mem_singleton] at hg
      rcases hg with hg | rfl
      · exact hq.lines g hg
      · exact hf
    · rw [or_iff_left hquote]
      exact Iff.rfl
  · have hmem : ∀ g, g ∈ (q.addClause c).labelFilters ↔ g ∈ q.labelFilters ∨ g ∈ c.filters := by
      intro g
      simp only [labelFilters, addClause, List.flatMap_append, List.flatMap_singleton,
        List.mem_append, or_assoc]
    refine ⟨rfl, ⟨hq.selects, ?_, hq.lines⟩, ?_⟩
    · intro g hg
      rcases (hmem g).mp hg with hg | hg
      · exact hq.labels g hg
      · exact hc g hg
    · rw [← hb, Broken, Broken]
      simp only [hmem, or_and_right, exists_or]

/-- Admitted matches keep a query regular, and break it exactly if one of them is compared with an
address that holds a quote. -/
theorem Regular.addMatches {g : Filter.Group} {q' : FlowQuery} (hq : q.Regular)
    (hg : ∀ m ∈ g, m.Admitted) (h : g.foldlM FlowQuery.addMatch q = .ok q') :
    q'.Regular ∧ (q'.Broken ↔ q.Broken ∨ ∃ m ∈ g, HoldsQuote q.catalog m) := by
  induction g generalizing q with
  | nil =>
    cases h
    simp [hq]
  | cons m g ih =>
    rw [List.foldlM_cons] at h
    obtain ⟨q₁, h₁, h⟩ := Outcome.bind_eq_ok.mp h
    obtain ⟨hc, hr, hb⟩ := hq.addMatch (hg m List.mem_cons_self) h₁
    obtain ⟨hr', hb'⟩ := ih hr (fun n hn => hg n (List.mem_cons_of_mem _ hn)) h
    refine ⟨hr', ?_⟩
    rw [hb', hb, hc, List.exists_mem_cons_iff, or_assoc]

/-! ### The query of the options -/

private theorem regular_recordTypeLabel (t : RecordType) :
    (recordTypeLabel t).Regular ∧ ¬(recordTypeLabel t).Broken := by
  have hkey : Consists Recovered.isNameChar Field.recordType := by decide
  cases t with
  | flowLog | newConnection | heartbeat | endConnection =>
    exact LabelFilter.regular_text hkey (by decide) false
  | allConnections => exact LabelFilter.regular_regex hkey (by decide) false

private theorem regular_recordTypeLine (c : Catalog) (t : RecordType) :
    (recordTypeLine c t).Regular := by
  have hvalues : ∀ value ∈ t.values, Consists isLiteralChar value := by
    cases t <;> decide
  refine ⟨(by decide : Consists Recovered.isNameChar Field.recordType), ?_⟩
  intro v hv
  obtain ⟨value, hvalue, rfl⟩ := List.mem_map.mp hv
  exact literal_pattern (hvalues value hvalue)

private theorem regular_dedupLines (d : Dedup) : ∀ f ∈ dedupLines d, f.Regular := by
  have hflag : ∀ value negated, (LineFilter.flag Field.duplicate value negated).Regular := by
    intro value negated
    refine ⟨(by decide : Consists Recovered.isNameChar Field.duplicate),
      List.forall_mem_singleton.mpr ?_⟩
    cases value <;> decide
  cases d with
  | none => exact List.forall_mem_nil _
  | keepUnique => exact List.forall_mem_singleton.mpr (hflag false false)
  | dropDuplicates => exact List.forall_mem_singleton.mpr (hflag true true)

private theorem regular_packetLossLines (c : Catalog) (l : PacketLoss) :
    ∀ f ∈ packetLossLines c l, f.Regular := by
  have hpackets : Consists Recovered.isNameChar Field.packets := by decide
  have hdropped : Consists Recovered.isNameChar Field.droppedPackets := by decide
  have hnonZero : Consists isLiteralChar nonZero := by decide
  have hzero : Consists isLiteralChar "0" := by decide
  cases l with
  | dropped =>
    refine List.forall_mem_cons.mpr ⟨⟨hpackets, ?_⟩, List.forall_mem_singleton.mpr ⟨hdropped, ?_⟩⟩
    · exact List.forall_mem_singleton.mpr hzero
    · exact List.forall_mem_singleton.mpr hnonZero
  | hasDrops =>
    exact List.forall_mem_singleton.mpr ⟨hdropped, List.forall_mem_singleton.mpr hnonZero⟩
  | sent => exact List.forall_mem_singleton.mpr ⟨hpackets, List.forall_mem_singleton.mpr hnonZero⟩
  | all => exact List.forall_mem_nil _

/-- The query of the options is regular and compares with no address. -/
theorem regular_ofOptions (catalog : Catalog) (options : FlowOptions) :
    (ofOptions catalog options).Regular ∧ ¬(ofOptions catalog options).Broken := by
  have happ := LabelFilter.regular_text (by decide : Consists Recovered.isNameChar "app")
    (by decide : Consists isLiteralChar "netobserv-flowcollector") false
  have hlabels : ∀ f ∈ (ofOptions catalog options).labelFilters, f.Regular ∧ ¬f.Broken := by
    intro f hf
    rw [labelFilters, ofOptions] at hf
    simp only [List.flatMap_nil, List.append_nil, List.mem_cons] at hf
    rcases hf with rfl | hf
    · exact happ
    · split at hf
      · obtain ⟨t, -, rfl⟩ := List.mem_map.mp hf
        exact regular_recordTypeLabel t
      · exact absurd hf List.not_mem_nil
  refine ⟨⟨List.cons_ne_nil _ _, fun f hf => (hlabels f hf).1, ?_⟩, ?_⟩
  · intro f hf
    rw [lineFilters, ofOptions] at hf
    simp only [List.append_nil, List.mem_append] at hf
    rcases hf with (hf | hf) | hf
    · exact regular_dedupLines _ f hf
    · split at hf
      · exact absurd hf List.not_mem_nil
      · obtain ⟨t, -, rfl⟩ := List.mem_map.mp hf
        exact regular_recordTypeLine catalog t
    · exact regular_packetLossLines catalog _ f hf
  · rintro ⟨f, hf, hb⟩
    exact (hlabels f hf).2 hb

/-! ### Queries for any of the matches -/

private theorem regular_lifted {c : Catalog} {f : LineFilter} (hf : f.Regular) :
    ∀ l ∈ (lifted c f).flatMap Clause.filters, l.Regular ∧ ¬l.Broken := by
  have hlabels : ∀ l ∈ f.toLabels?.getD [], l.Regular ∧ ¬l.Broken := by
    cases hls : f.toLabels? with
    | none => exact List.forall_mem_nil _
    | some ls => exact LineFilter.regular_toLabels? hf hls
  intro l hl
  obtain ⟨clause, hclause, hl⟩ := List.mem_flatMap.mp hl
  obtain ⟨r, hr, rfl⟩ := List.mem_map.mp hclause
  obtain ⟨hreg, hbroken⟩ := hlabels r hr
  rw [liftedClause] at hl
  split at hl
  · next src dst hp =>
    have hn := name_of_pair hreg.key hp
    rw [List.mem_cons, List.mem_singleton] at hl
    rcases hl with rfl | rfl
    · exact ⟨⟨hn.1, hreg.value⟩, hbroken⟩
    · exact ⟨⟨hn.2, hreg.value⟩, hbroken⟩
  · rw [List.mem_singleton.mp hl]
    exact ⟨hreg, hbroken⟩

/-- Clauses of one filter each hold just these filters. -/
theorem filters_singles (fs : List LabelFilter) :
    (fs.map Clause.single).flatMap Clause.filters = fs := by
  rw [List.flatMap_map]
  exact List.flatMap_singleton' _

private theorem mem_labelFilters_matchAny (hq : q.Regular) :
    (∀ f ∈ q.labelFilters, f ∈ q.matchAny.labelFilters) ∧
      ∀ f ∈ q.matchAny.labelFilters, f ∈ q.labelFilters ∨ (f.Regular ∧ ¬f.Broken) := by
  rw [matchAny]
  split_ifs
  · exact ⟨fun f hf => hf, fun f hf => .inl hf⟩
  · exact ⟨fun f hf => hf, fun f hf => .inl hf⟩
  · have hmem : ∀ f, f ∈ q.fixedLabels ++ [] ++ (q.labels.map Clause.single ++
        q.lines.flatMap (lifted q.catalog) ++ q.clauses).flatMap Clause.filters ↔
        f ∈ q.labelFilters ∨ f ∈ (q.lines.flatMap (lifted q.catalog)).flatMap Clause.filters := by
      intro f
      rw [List.flatMap_append, List.flatMap_append, filters_singles, labelFilters]
      simp only [List.append_nil, List.mem_append]
      tauto
    refine ⟨fun f hf => (hmem f).mpr (.inl hf), fun f hf => ((hmem f).mp hf).imp_right ?_⟩
    intro hl
    rw [List.flatMap_assoc] at hl
    obtain ⟨line, hline, hl⟩ := List.mem_flatMap.mp hl
    exact regular_lifted (hq.lines line (List.mem_append_right _ hline)) f hl

private theorem lineFilters_matchAny : ∀ f ∈ q.matchAny.lineFilters, f ∈ q.lineFilters := by
  rw [matchAny]
  split_ifs
  · exact fun f hf => hf
  · exact fun f hf => hf
  · intro f hf
    rw [lineFilters, List.append_nil] at hf
    exact List.mem_append_left _ hf

/-- The query for any of the matches has the fixed labels of the query. -/
theorem fixedLabels_matchAny : q.matchAny.fixedLabels = q.fixedLabels := by
  rw [matchAny]
  split_ifs <;> rfl

/-- Turning a query into one for any of the matches keeps it regular, and neither breaks nor mends
it. -/
theorem Regular.matchAny (hq : q.Regular) :
    q.matchAny.Regular ∧ (q.matchAny.Broken ↔ q.Broken) := by
  obtain ⟨hsub, hsup⟩ := mem_labelFilters_matchAny hq
  refine ⟨⟨?_, ?_, fun f hf => hq.lines f (lineFilters_matchAny f hf)⟩, ?_, ?_⟩
  · rw [fixedLabels_matchAny]
    exact hq.selects
  · intro f hf
    rcases hsup f hf with hf | hf
    · exact hq.labels f hf
    · exact hf.1
  · rintro ⟨f, hf, hb⟩
    rcases hsup f hf with hf | hf
    · exact ⟨f, hf, hb⟩
    · exact absurd hb hf.2
  · rintro ⟨f, hf, hb⟩
    exact ⟨f, hsub f hf, hb⟩

/-! ### Queries of expressions -/

/-- The query of a group, or that for any of its matches. -/
def matching (q : FlowQuery) (any : Bool) : FlowQuery := if any then q.matchAny else q

/-- Whatever an expression was read from, the query of a group of it, for all or for any of its
matches, has a text. If no match is compared with an address that holds a quote, the text scans to
the literals of the query, and its code to that of its tokens, where names are made of the
characters of names and numbers of those of numbers; otherwise it does not scan to the literals. -/
theorem scan_body {raw : String} {e : Filter.Expression} {g : Filter.Group} {catalog : Catalog}
    {options : FlowOptions} (hp : Filter.Expression.parse raw = .ok e) (hg : g ∈ e)
    (hq : ofGroup catalog options g = .ok q) (any forceJson : Bool) :
    ∃ text, (q.matching any).body forceJson = .ok text ∧
      ((∀ m ∈ g, ¬HoldsQuote catalog m) →
        scan text =
          some (codeOf ((q.matching any).tokens forceJson), (q.matching any).literals)) ∧
      ((∃ m ∈ g, HoldsQuote catalog m) →
        ∀ code, scan text ≠ some (code, (q.matching any).literals)) ∧
      ∀ f ∈ (q.matching any).labelFilters, Consists Recovered.isNameChar f.key ∧
        (f.form = .number → Consists isNumberChar f.value) := by
  have hadmitted : ∀ m ∈ g, m.Admitted := fun m hm => Filter.admitted_of_parse hp hg hm
  obtain ⟨hopt, hoptb⟩ := regular_ofOptions catalog options
  obtain ⟨hreg, hbroken⟩ := hopt.addMatches hadmitted hq
  rw [or_iff_right hoptb] at hbroken
  have hany : (q.matching any).Regular ∧ ((q.matching any).Broken ↔ q.Broken) := by
    cases any with
    | false => exact ⟨hreg, Iff.rfl⟩
    | true => exact hreg.matchAny
  obtain ⟨hr, hb⟩ := hany
  refine ⟨_, body_eq _ forceJson hr.selects, ?_, ?_, ?_⟩
  · intro hno
    apply hr.scan
    rw [hb, hbroken]
    rintro ⟨m, hm, hquote⟩
    exact hno m hm hquote
  · intro hsome
    exact hr.scan_ne (hb.mpr (hbroken.mpr hsome)) forceJson
  · intro f hf
    obtain ⟨hkey, hvalue⟩ := hr.labels f hf
    refine ⟨hkey, fun hform => ?_⟩
    rw [hform] at hvalue
    exact hvalue

/-- The catalog of the witnesses. -/
def namespaceCatalog : Catalog := .ofLabels [Field.sourceNamespace, Field.destinationNamespace]

/-- A match with a quote in its value. -/
def quoteMatch (key : String) : Filter.Match := { key, values := "1\"2" }

/-- A name that holds a quote stays in its literal. -/
theorem scan_body_name :
    Filter.Expression.parse "SrcK8S_Name=1\"2" = .ok [[quoteMatch "SrcK8S_Name"]] ∧
      ∃ q, ofGroup namespaceCatalog {} [quoteMatch "SrcK8S_Name"] = .ok q ∧
        ∃ text, (q.matching true).body false = .ok text ∧
          scan text =
            some (codeOf ((q.matching true).tokens false), (q.matching true).literals) := by
  have hp : Filter.Expression.parse "SrcK8S_Name=1\"2" = .ok [[quoteMatch "SrcK8S_Name"]] := by
    decide +kernel
  have hok : (ofGroup namespaceCatalog {} [quoteMatch "SrcK8S_Name"]).isOk = true := by
    decide +kernel
  obtain ⟨q, hq⟩ := Outcome.exists_of_isOk hok
  obtain ⟨text, htext, hscan, -⟩ := scan_body hp List.mem_cons_self hq true false
  refine ⟨hp, q, hq, text, htext, hscan (List.forall_mem_singleton.mpr ?_)⟩
  exact not_holdsQuote (by decide +kernel)

/-- An address that holds a quote ends its literal: what follows is read as code, and the text ends
inside another literal. -/
theorem scan_address_quote :
    Filter.Expression.parse "SrcAddr=1\"2" = .ok [[quoteMatch "SrcAddr"]] ∧
      (ofGroup namespaceCatalog {} [quoteMatch "SrcAddr"] >>= fun q => q.body false) =
        .ok "\x7bapp=\"netobserv-flowcollector\"\x7d|json|SrcAddr=ip(\"1\"2\")" ∧
      scan "\x7bapp=\"netobserv-flowcollector\"\x7d|json|SrcAddr=ip(\"1\"2\")" = none := by
  decide +kernel

end FlowConsole.LogQL.FlowQuery
