import FlowConsole.Proofs.LogQL.Comparison
import FlowConsole.Proofs.PromQL.Selection
import FlowConsole.Proofs.Url.Parameters

/-!
# Metric queries with one more match

The query of a group with one more match in front has one more comparison in front of the others,
and is the same otherwise (`matchers_cons`). Its address has parameters of the same names exactly if
the match holds no sign that ends a parameter (`parameterNames_url_cons`), as long as nothing else
does.
-/

open FlowConsole.Filter (Group Match)

namespace FlowConsole.PromQL

/-- A match that is not left out has its comparison before those of the others. -/
theorem matchers_cons {d : Direction} {m : Match} (hatLeast : m.atLeast = false)
    (hkey : m.key ≠ Field.flowDirection) (g : Group) :
    matchers d (m :: g) = (matchers d g).map fun fs => m.comparison :: fs := by
  have hkept : isLeftOut d m = false := by
    rw [isLeftOut, beq_eq_false_iff_ne.mpr hkey, Bool.false_and]
  have hfirst : matcher? d m = .ok (some m.comparison) := by
    rw [matcher?_eq hatLeast, hkept]
    rfl
  rw [matchers, matchers, List.mapM_cons, hfirst]
  cases g.mapM (matcher? d) <;> rfl

/-! ### Groups without the sign between parameters -/

/-- Nothing in the group ends a parameter. -/
def IsInner (g : Group) : Prop := ∀ m ∈ g, '&' ∉ m.key.toList ∧ '&' ∉ m.values.toList

instance (g : Group) : Decidable (IsInner g) :=
  inferInstanceAs (Decidable (∀ m ∈ g, '&' ∉ m.key.toList ∧ '&' ∉ m.values.toList))

/-- The comparisons of a group hold no sign that ends a parameter if the group does not. -/
theorem IsInner.amp_not_mem {g : Group} (h : IsInner g) {d : Direction}
    {fs : List LogQL.LabelFilter} (hfs : matchers d g = .ok fs) :
    ∀ f ∈ fs, '&' ∉ f.render.toList := by
  intro f hf
  obtain ⟨os, hos, rfl⟩ := Outcome.map_eq_ok.mp hfs
  obtain ⟨o, ho, rfl⟩ := List.mem_filterMap.mp hf
  obtain ⟨m, hm, hmatcher⟩ := Outcome.exists_of_mem_mapM hos ho
  cases hatLeast : m.atLeast with
  | true =>
    rw [matcher?, hatLeast] at hmatcher
    cases hmatcher
  | false =>
    rw [matcher?_eq hatLeast] at hmatcher
    split at hmatcher
    · cases hmatcher
    · cases hmatcher
      rw [LogQL.amp_mem_comparison, not_or]
      exact h m hm

/-! ### One more comparison -/

/-- The text neither starts nor ends with the sign that ends a parameter. -/
def IsFramed (text : String) : Prop :=
  text.toList.head? ≠ some '&' ∧ text.toList.getLast? ≠ some '&'

/-- The text of a comparison ends with the quote of its value, and starts with the key. -/
theorem isFramed_comparison {m : Match} (hkey : m.key ≠ "")
    (hhead : m.key.toList.head? ≠ some '&') : IsFramed m.comparison.render := by
  have hne : m.key.toList ≠ [] := fun h => hkey (String.toList_inj.mp h)
  have hfirst : m.comparison.render.toList.head? = m.key.toList.head? := by
    rw [LogQL.LabelFilter.render, String.toList_append, String.toList_append, m.key_comparison,
      List.append_assoc, List.head?_append_of_ne_nil _ hne]
  have hform : m.comparison.form = .text ∨ m.comparison.form = .regex := by
    rw [Match.comparison]
    split
    · exact .inr rfl
    · rw [LogQL.LabelFilter.ofAtoms.eq_def]
      split
      · split <;> exact .inl rfl
      · exact .inl rfl
  refine ⟨by rwa [hfirst], ?_⟩
  rw [LogQL.LabelFilter.render, LogQL.LabelFilter.valueText]
  rcases hform with hform | hform <;> simp [hform, List.getLast?_cons]

/-- One more comparison in front is inserted in the selector, with the sign between comparisons or
with the braces. -/
theorem selector_cons (f : LogQL.LabelFilter) {fs : List LogQL.LabelFilter}
    (hfs : ∀ f ∈ fs, '&' ∉ f.render.toList) (hf : IsFramed f.render) :
    ∃ before inserted after, selector fs = before ++ after ∧
      selector (f :: fs) = before ++ inserted ++ after ∧
      '&' ∉ before.toList ∧ '&' ∉ after.toList ∧ IsFramed inserted ∧
      ('&' ∈ inserted.toList ↔ '&' ∈ f.render.toList) := by
  cases fs with
  | nil =>
    refine ⟨"", "\x7b" ++ f.render ++ "\x7d", "", rfl, ?_, by decide, by decide, ?_, ?_⟩
    · simp [selector, Text.join]
    · exact ⟨by simp, by simp [List.getLast?_cons]⟩
    · simp
  | cons f' fs =>
    have hrest : '&' ∉ (Text.join "," ((f' :: fs).map LogQL.LabelFilter.render)).toList := by
      apply Url.amp_not_mem_join (by decide)
      intro text htext
      obtain ⟨f'', hf'', rfl⟩ := List.mem_map.mp htext
      exact hfs f'' hf''
    refine ⟨"\x7b", f.render ++ ",",
      Text.join "," ((f' :: fs).map LogQL.LabelFilter.render) ++ "\x7d", ?_, ?_, by decide, ?_, ?_,
      ?_⟩
    · rw [selector, if_neg (by simp), String.append_assoc]
    · rw [selector, if_neg (by simp), List.map_cons, List.map_cons, Text.join]
      simp only [String.append_assoc]
    · simpa using hrest
    · refine ⟨?_, by simp⟩
      rw [String.toList_append, List.head?_append]
      cases hhead : f.render.toList.head? with
      | none => decide
      | some c =>
        rw [← hhead]
        simpa [hhead] using hf.1
    · simp

/-- The expression of a metric has the selector in one place, or in two for an average. -/
theorem expression_shape {x : MetricInfo} {o : Metric.Options} {sel text : String}
    (hname : '&' ∉ x.name.toList) (hlabels : ∀ l ∈ o.aggregate.labels, '&' ∉ l.toList)
    (hinterval : '&' ∉ o.rateInterval.toList) (h : expression x sel o = .ok text) :
    (∃ p q, (∀ sel, expression x sel o = .ok (p ++ sel ++ q)) ∧ '&' ∉ p.toList) ∨
      ∃ p q r, (∀ sel, expression x sel o = .ok (p ++ sel ++ q ++ sel ++ r)) ∧
        '&' ∉ p.toList ∧ '&' ∉ q.toList := by
  have hjoined : '&' ∉ o.aggregate.joined.toList := Url.amp_not_mem_joined hlabels
  rw [expression] at h
  split at h
  · next hkind =>
    refine .inl ⟨"sum by(" ++ o.aggregate.joined ++ ")(rate(" ++ x.name,
      "[" ++ o.rateInterval ++ "]))", fun sel => ?_, by simp [hjoined, hname]⟩
    rw [expression, hkind]
    simp only [summedRate, String.append_assoc]
  · next quantile hkind hquantile =>
    have hvalue : '&' ∉ quantile.toList := by
      revert hquantile
      cases o.effectiveFunction <;> rintro ⟨⟩ <;> decide
    refine .inl ⟨"histogram_quantile(" ++ quantile ++ "," ++ "sum by(" ++ o.aggregate.joined ++
      ",le" ++ ")(rate(" ++ x.name ++ "_bucket", "[" ++ o.rateInterval ++ "]))" ++ ")",
      fun sel => ?_, by simp [hjoined, hname, hvalue]⟩
    rw [expression, hkind, hquantile]
    simp only [summedRate, String.append_assoc]
  · next hkind hquantile =>
    split at h
    · next havg =>
      refine .inr ⟨"(" ++ "sum by(" ++ o.aggregate.joined ++ ")(rate(" ++ x.name ++ "_sum",
        "[" ++ o.rateInterval ++ "]))" ++ "/" ++ "sum by(" ++ o.aggregate.joined ++ ")(rate(" ++
          x.name ++ "_count", "[" ++ o.rateInterval ++ "]))" ++ ")", fun sel => ?_,
        by simp [hjoined, hname], by simp [hjoined, hname, hinterval]⟩
      rw [expression, hkind, hquantile]
      dsimp only
      rw [if_pos havg]
      simp only [summedRate, String.append_assoc]
    · cases h

/-- What stands before the expression in the address of a query. -/
def queryStart (base : String) (o : Metric.Options) : String :=
  Text.withoutTrailingSlashes base ++ "/api/v1/query_range?query=" ++
    o.effectiveFunction.topOperator ++ "(" ++ toString o.top ++ ","

/-- What stands after the expression in the address of a query. -/
def queryEnd (o : Metric.Options) (w : Window) : String :=
  o.measure.scale?.getD "" ++ ")&start=" ++ toString w.start ++ "&end=" ++ toString w.finish ++
    "&step=" ++ o.step

/-- The address of a query is made of the selector and what stands around the expression. -/
theorem url_eq {base : String} {x : MetricInfo} {g : Group} {o : Metric.Options} {w : Window}
    {fs : List LogQL.LabelFilter} {inner : String} (hfs : matchers x.direction g = .ok fs)
    (hinner : expression x (selector fs) o = .ok inner) :
    url base x g o w = .ok (queryStart base o ++ inner ++ queryEnd o w) := by
  rw [url, hfs]
  change (expression x (selector fs) o >>= _) = _
  rw [hinner]
  change Except.ok _ = _
  simp only [queryStart, queryEnd, String.append_assoc]

/-- An address of a query was made that way. -/
theorem exists_of_url {base : String} {x : MetricInfo} {g : Group} {o : Metric.Options} {w : Window}
    {u : String} (h : url base x g o w = .ok u) :
    ∃ fs inner, matchers x.direction g = .ok fs ∧ expression x (selector fs) o = .ok inner ∧
      u = queryStart base o ++ inner ++ queryEnd o w := by
  have hurl := h
  rw [url] at h
  obtain ⟨fs, hfs, h⟩ := Outcome.bind_eq_ok.mp h
  obtain ⟨inner, hinner, -⟩ := Outcome.bind_eq_ok.mp h
  rw [url_eq hfs hinner] at hurl
  exact ⟨fs, inner, hfs, hinner, (Except.ok.inj hurl).symm⟩

/-- Up to the expression, an address ends in the value of the query. -/
theorem endsInValue_queryStart (base : String) (o : Metric.Options) :
    Url.EndsInValue (queryStart base o) := by
  have hquery :
      Url.EndsInValue (Text.withoutTrailingSlashes base ++ "/api/v1/query_range?query=") :=
    Url.endsInValue_append _ (x := "/api/v1/query_range?query".toList) rfl (by decide)
  have hoperator : '&' ∉ o.effectiveFunction.topOperator.toList :=
    Url.amp_not_mem_topOperator o.effectiveFunction
  have htop : '&' ∉ (toString o.top).toList := Url.amp_not_mem_toString o.top
  exact (((hquery.append hoperator).append (by decide)).append htop).append (by decide)

/-- The address of the query of a group with one more match has parameters of the same names exactly
if the match does not end a parameter. -/
theorem parameterNames_url_cons {base : String} {x : MetricInfo} {g : Group} {o : Metric.Options}
    {w : Window} {u : String} {m : Match} (hatLeast : m.atLeast = false)
    (hkey : m.key ≠ Field.flowDirection) (hframed : IsFramed m.comparison.render)
    (hname : '&' ∉ x.name.toList) (hlabels : ∀ l ∈ o.aggregate.labels, '&' ∉ l.toList)
    (hinterval : '&' ∉ o.rateInterval.toList) (hg : IsInner g) (hu : url base x g o w = .ok u) :
    ∃ v, url base x (m :: g) o w = .ok v ∧
      (Url.parameterNames v = Url.parameterNames u ↔ '&' ∉ m.comparison.render.toList) := by
  obtain ⟨fs, inner, hfs, hinner, rfl⟩ := exists_of_url hu
  have hmore : matchers x.direction (m :: g) = .ok (m.comparison :: fs) := by
    rw [matchers_cons hatLeast hkey, hfs]
    rfl
  obtain ⟨before, ins, after, hwithout, hwith, hbefore, hafter, hins, hamp⟩ :=
    selector_cons m.comparison (hg.amp_not_mem hfs) hframed
  rw [← hamp]
  rcases expression_shape hname hlabels hinterval hinner with
    ⟨p, q, hshape, hp⟩ | ⟨p, q, r, hshape, hp, hq⟩
  · have hsame : inner = p ++ (before ++ after) ++ q := by
      rw [hshape, hwithout] at hinner
      exact (Except.ok.inj hinner).symm
    have hvalue : Url.EndsInValue (queryStart base o ++ p ++ before) :=
      ((endsInValue_queryStart base o).append hp).append hbefore
    have hnames := Url.parameterNames_insert hvalue hins.1 hins.2 (after ++ q ++ queryEnd o w)
    refine ⟨_, url_eq hmore (hshape _), ?_⟩
    rw [hsame, hwith]
    simpa only [String.append_assoc] using hnames
  · have hsame : inner = p ++ (before ++ after) ++ q ++ (before ++ after) ++ r := by
      rw [hshape, hwithout] at hinner
      exact (Except.ok.inj hinner).symm
    have hvalue : Url.EndsInValue (queryStart base o ++ p ++ before) :=
      ((endsInValue_queryStart base o).append hp).append hbefore
    have hbetween : '&' ∉ (after ++ q ++ before).toList := by simp [hafter, hq, hbefore]
    have hnames := Url.parameterNames_insert_twice hvalue hbetween hins.1 hins.2
      (after ++ r ++ queryEnd o w)
    refine ⟨_, url_eq hmore (hshape _), ?_⟩
    rw [hsame, hwith]
    simpa only [String.append_assoc] using hnames

end FlowConsole.PromQL
