import FlowConsole.Proofs.LogQL.Inner
import FlowConsole.Proofs.LogQL.Settled
import FlowConsole.Proofs.Service.Scope
import FlowConsole.Proofs.Url.Carrying
import FlowConsole.Proofs.Url.Extending

/-!
# Addresses carry their queries

The address of a query is raw text, which is cut into parameters when it is sent. The stores get the
text of the query first, and then the bounds of the window, the limit and the step, as far as there
are any: each of them once, and nothing else (`carries_parameters`). This takes an address of the
store that the path of the query may follow; with any other, such as one that can be read but ends
in a blank (`not_carries_blank`), nothing is sent.
-/

open FlowConsole.Filter (Expression Group)

namespace FlowConsole

/-! ### Parameters of queries -/

namespace Url

/-- A parameter, if it has a value. -/
def given (name : String) (value : Option String) : List (String × String) :=
  (value.map (name, ·)).toList

/-- The text of parameters, each after the sign between them. -/
def furtherText (params : List (String × String)) : String :=
  String.join (params.map fun p => "&" ++ (p.1 ++ "=" ++ p.2))

private theorem furtherText_append (ps qs : List (String × String)) :
    furtherText (ps ++ qs) = furtherText ps ++ furtherText qs := by
  rw [furtherText, List.map_append, String.join_append]
  rfl

private theorem furtherText_given (name : String) (value : Option String) :
    furtherText (given name value) = LogQL.parameter name value := by
  cases value with
  | none => rfl
  | some text => simp [furtherText, LogQL.parameter, given, String.append_assoc]

/-- The query is the first parameter of an address. -/
theorem address_query (start text : String) (ps : List (String × String)) :
    start ++ "?" ++ rawText (("query", text) :: ps) =
      start ++ "?query=" ++ text ++ furtherText ps := by
  have hrest : String.join ((ps.map fun p => p.1 ++ "=" ++ p.2).map ("&" ++ ·)) =
      furtherText ps := by
    rw [List.map_map]
    rfl
  have hname : "?query=" = "?" ++ "query" ++ "=" := rfl
  rw [rawText, List.map_cons, Text.join_cons, hrest, hname]
  simp only [String.append_assoc]

private theorem isRaw_cons {name value : String} (hname : '=' ∉ name.toList ∧ '&' ∉ name.toList)
    (hvalue : '&' ∉ value.toList) {ps : List (String × String)} (h : IsRaw ps) :
    IsRaw ((name, value) :: ps) :=
  List.forall_mem_cons.mpr ⟨⟨hname.1, hname.2, hvalue⟩, h⟩

private theorem isRaw_given {name : String} (hname : '=' ∉ name.toList ∧ '&' ∉ name.toList)
    {value : Option String} (h : ∀ text, value = some text → '&' ∉ text.toList) :
    IsRaw (given name value) := by
  intro p hp
  obtain ⟨text, htext, rfl⟩ := Option.map_eq_some_iff.mp (Option.mem_toList.mp hp)
  exact ⟨hname.1, hname.2, h text htext⟩

/-- An integer holds no sign that ends a parameter. -/
theorem amp_not_mem_integer (i : Int) : '&' ∉ (toString i).toList := by
  cases i with
  | ofNat n => exact amp_not_mem_toString n
  | negSucc n =>
    have hdigits : '&' ∉ (toString (n + 1)).toList := amp_not_mem_toString (n + 1)
    change '&' ∉ ("-" ++ toString (n + 1)).toList
    rw [String.toList_append, List.mem_append, or_iff_right (by decide)]
    exact hdigits

/-- The parameters of a window. -/
def window (start finish : Option Int) : List (String × String) :=
  given "start" (start.map toString) ++ given "end" (finish.map toString)

private theorem furtherText_window (start finish : Option Int) :
    furtherText (window start finish) = LogQL.windowParameters start finish := by
  rw [window, furtherText_append, furtherText_given, furtherText_given]
  rfl

private theorem isRaw_window (start finish : Option Int) : IsRaw (window start finish) := by
  have hvalue (time : Option Int) : ∀ text, time.map toString = some text → '&' ∉ text.toList := by
    intro text htext
    obtain ⟨i, -, rfl⟩ := Option.map_eq_some_iff.mp htext
    exact amp_not_mem_integer i
  exact List.forall_mem_append.mpr
    ⟨isRaw_given (by decide) (hvalue start), isRaw_given (by decide) (hvalue finish)⟩

/-- The address of a store can be read with the path after it. -/
def TakesPath (base path : String) : Prop :=
  ∃ u, read (Text.withoutTrailingSlashes base ++ path).toList = .ok u

/-- The raw address of a query carries just the parameters if the address of the store can be read
with the path after it, and is refused otherwise. -/
def Sends (base path raw : String) (params : List (String × String)) : Prop :=
  (Carries raw params ↔ TakesPath base path) ∧ (IsRefused raw ↔ ¬TakesPath base path)

end Url

/-! ### Log stores -/

namespace LogQL

/-- The path of queries at log stores. -/
def rangePath : String := "/loki/api/v1/query_range"

private theorem isPath_rangePath : Url.IsPath rangePath.toList where
  start := rfl
  single := by decide
  signs := by decide
  visible := by decide
  fileHost := by decide +kernel
  host := by decide +kernel

private theorem queryRange_eq (start : String) :
    queryRange start = start ++ rangePath ++ "?query=" := by
  have hpath : "/loki/api/v1/query_range?query=" = rangePath ++ "?query=" := rfl
  rw [queryRange, hpath, String.append_assoc]

namespace FlowQuery

/-- The parameters of a query for flows. -/
def parameters (options : FlowOptions) (text : String) : List (String × String) :=
  ("query", text) ::
    (Url.window options.start options.finish ++ Url.given "limit" (options.limit.map toString))

/-- The address of a query is the path of queries and its parameters. -/
theorem url_eq_parameters {q : FlowQuery} {text : String} (h : q.body false = .ok text)
    (base : String) :
    q.url base = .ok (Text.withoutTrailingSlashes base ++ rangePath ++ "?" ++
      Url.rawText (parameters q.options text)) := by
  rw [url, h, parameters, Url.address_query, Url.furtherText_append, Url.furtherText_window,
    Url.furtherText_given, ← queryRange_eq, ← String.append_assoc]
  rfl

private theorem isRaw_parameters (options : FlowOptions) {text : String} (h : '&' ∉ text.toList) :
    Url.IsRaw (parameters options text) := by
  have hlimit : ∀ limit, options.limit.map toString = some limit → '&' ∉ limit.toList := by
    intro limit hlimit
    obtain ⟨n, -, rfl⟩ := Option.map_eq_some_iff.mp hlimit
    exact Url.amp_not_mem_toString n
  refine Url.isRaw_cons (by decide) h (List.forall_mem_append.mpr ⟨?_, ?_⟩)
  · exact Url.isRaw_window options.start options.finish
  · exact Url.isRaw_given (by decide) hlimit

end FlowQuery

namespace TopologyQuery

/-- The parameters of a query for metrics. -/
def parameters (options : FlowOptions) (metric : Metric.Options) (text : String) :
    List (String × String) :=
  ("query", text) :: (Url.window options.start options.finish ++
    [("limit", toString metric.top), ("step", metric.step)])

/-- The address of a query is the path of queries and its parameters. -/
theorem url_eq_parameters {q : TopologyQuery} {text : String} (h : q.body = .ok text)
    (base : String) :
    q.url base = .ok (Text.withoutTrailingSlashes base ++ rangePath ++ "?" ++
      Url.rawText (parameters q.flow.options q.metric text)) := by
  have hlast : [("limit", toString q.metric.top), ("step", q.metric.step)] =
      Url.given "limit" (some (toString q.metric.top)) ++
        Url.given "step" (some q.metric.step) := rfl
  rw [url, h, parameters, Url.address_query, Url.furtherText_append, Url.furtherText_window, hlast,
    Url.furtherText_append, Url.furtherText_given, Url.furtherText_given, ← queryRange_eq,
    ← String.append_assoc, ← String.append_assoc]
  rfl

private theorem isRaw_parameters (options : FlowOptions) {metric : Metric.Options}
    (hmetric : metric.IsInner) {text : String} (h : '&' ∉ text.toList) :
    Url.IsRaw (parameters options metric text) := by
  refine Url.isRaw_cons (by decide) h (List.forall_mem_append.mpr ⟨?_, ?_⟩)
  · exact Url.isRaw_window options.start options.finish
  · exact Url.isRaw_cons (by decide) (Url.amp_not_mem_toString metric.top)
      (Url.isRaw_cons (by decide) hmetric.step (List.forall_mem_nil _))

end TopologyQuery

end LogQL

/-! ### Metric stores -/

namespace PromQL

/-- The path of queries at metric stores. -/
def rangePath : String := "/api/v1/query_range"

private theorem isPath_rangePath : Url.IsPath rangePath.toList where
  start := rfl
  single := by decide
  signs := by decide
  visible := by decide
  fileHost := by decide +kernel
  host := by decide +kernel

/-- The text of the query of a metric. -/
def body (x : MetricInfo) (g : Group) (o : Metric.Options) : Except QueryError String := do
  let fs ← matchers x.direction g
  let inner ← expression x (selector fs) o
  return o.effectiveFunction.topOperator ++ "(" ++ toString o.top ++ "," ++ inner ++
    o.measure.scale?.getD "" ++ ")"

/-- The parameters of a query of a metric. -/
def parameters (o : Metric.Options) (w : Window) (text : String) : List (String × String) :=
  ("query", text) :: (Url.window (some w.start) (some w.finish) ++ [("step", o.step)])

/-- The address of a query is the path of queries and its parameters. -/
theorem url_eq_parameters (base : String) (x : MetricInfo) (g : Group) (o : Metric.Options)
    (w : Window) :
    url base x g o w = (body x g o).map fun text => Text.withoutTrailingSlashes base ++ rangePath ++
      "?" ++ Url.rawText (parameters o w text) := by
  rw [url, body]
  cases matchers x.direction g with
  | error e => rfl
  | ok fs =>
    change (expression x (selector fs) o >>= _) = (expression x (selector fs) o >>= _).map _
    cases expression x (selector fs) o with
    | error e => rfl
    | ok inner =>
      have hpath : "/api/v1/query_range?query=" = rangePath ++ "?query=" := rfl
      have hstart : ")&start=" = ")" ++ ("&" ++ ("start" ++ "=")) := rfl
      have hend : "&end=" = "&" ++ ("end" ++ "=") := rfl
      have hstep : "&step=" = "&" ++ ("step" ++ "=") := rfl
      refine congrArg Except.ok ?_
      dsimp only
      rw [parameters, Url.address_query, Url.furtherText_append, Url.furtherText_window, hpath,
        hstart, hend, hstep]
      simp only [LogQL.windowParameters, LogQL.parameter, Option.map_some, Url.furtherText,
        List.map_cons, List.map_nil, String.join_cons, String.join_nil, String.append_empty,
        String.append_assoc]

/-- The address of a query was made from its text. -/
theorem exists_body_of_url {base raw : String} {x : MetricInfo} {g : Group} {o : Metric.Options}
    {w : Window} (h : url base x g o w = .ok raw) :
    ∃ text, body x g o = .ok text ∧ raw = Text.withoutTrailingSlashes base ++ rangePath ++ "?" ++
      Url.rawText (parameters o w text) := by
  rw [url_eq_parameters] at h
  obtain ⟨text, htext, rfl⟩ := Outcome.map_eq_ok.mp h
  exact ⟨text, htext, rfl⟩

private theorem amp_not_mem_expression {x : MetricInfo} {o : Metric.Options} {sel text : String}
    (hname : '&' ∉ x.name.toList) (ho : o.IsInner) (hsel : '&' ∉ sel.toList)
    (h : expression x sel o = .ok text) : '&' ∉ text.toList := by
  have hjoined : '&' ∉ o.aggregate.joined.toList := Url.amp_not_mem_joined ho.labels
  have hrate (labels suffix : String) (hl : '&' ∉ labels.toList) (hs : '&' ∉ suffix.toList) :
      '&' ∉ (summedRate labels (x.name ++ suffix) sel o.rateInterval).toList := by
    simp [summedRate, hl, hs, hname, hsel, ho.rateInterval]
  rw [expression] at h
  split at h
  · cases h
    have hplain := hrate o.aggregate.joined "" hjoined (by decide)
    rwa [String.append_empty] at hplain
  · next quantile hkind hquantile =>
    cases h
    have hvalue : '&' ∉ quantile.toList := by
      revert hquantile
      cases o.effectiveFunction <;> rintro ⟨⟩ <;> decide
    have hbuckets := hrate (o.aggregate.joined ++ ",le") "_bucket" (by simp [hjoined]) (by decide)
    simp [hvalue, hbuckets]
  · split at h
    · cases h
      have hsum := hrate o.aggregate.joined "_sum" hjoined (by decide)
      have hcount := hrate o.aggregate.joined "_count" hjoined (by decide)
      simp [hsum, hcount]
    · cases h

private theorem isRaw_parameters {o : Metric.Options} (w : Window) (ho : o.IsInner) {text : String}
    (h : '&' ∉ text.toList) : Url.IsRaw (parameters o w text) := by
  refine Url.isRaw_cons (by decide) h (List.forall_mem_append.mpr ⟨?_, ?_⟩)
  · exact Url.isRaw_window (some w.start) (some w.finish)
  · exact Url.isRaw_cons (by decide) ho.step (List.forall_mem_nil _)

/-- The text of the query of a metric does not end a parameter. -/
theorem amp_not_mem_body {x : MetricInfo} {g : Group} {o : Metric.Options} {text : String}
    (hname : '&' ∉ x.name.toList) (hg : IsInner g) (ho : o.IsInner) (h : body x g o = .ok text) :
    '&' ∉ text.toList := by
  obtain ⟨fs, hfs, h⟩ := Outcome.bind_eq_ok.mp h
  obtain ⟨inner, hinner, h⟩ := Outcome.bind_eq_ok.mp h
  cases h
  have hsel : '&' ∉ (selector fs).toList := by
    have hjoined := Url.amp_not_mem_join (by decide : '&' ∉ ",".toList)
      (List.forall_mem_map.mpr (hg.amp_not_mem hfs))
    rw [selector]
    split
    · decide
    · simpa using hjoined
  have hexpression := amp_not_mem_expression hname ho hsel hinner
  have hoperator := Url.amp_not_mem_topOperator o.effectiveFunction
  have hscale : '&' ∉ (o.measure.scale?.getD "").toList := by
    cases o.measure <;> decide
  have htop : '&' ∉ Nat.toDigits 10 o.top := by
    simpa using Url.amp_not_mem_toString o.top
  simp [hexpression, hoperator, hscale, htop]

end PromQL

/-! ### Addresses of both stores -/

namespace Service

open LogQL (FlowQuery TopologyQuery)
open LogQL.FlowQuery (namespaceCatalog severalKinds)
open State (amp_not_mem_of_admitted amp_not_mem_labels amp_not_mem_rateInterval)

/-- Nothing in the options of a request that is read ends a parameter. -/
theorem isInner_metric {ps : Request.Parameters} {now : Int} {r : Request.Metrics}
    (h : Request.Metrics.read ps now = .ok r) : r.metric.IsInner := by
  obtain ⟨hsound, -⟩ := Request.Metrics.sound_of_read h
  obtain ⟨hstep, hkey⟩ := Request.Metrics.consists_of_read h
  exact {
    key := fun hcustom => Url.amp_not_mem_of_consists (hkey hcustom) (by decide)
    labels := amp_not_mem_labels hsound
    step := Url.amp_not_mem_of_consists hstep (by decide)
    rateInterval := amp_not_mem_rateInterval hsound }

private theorem mark_not_mem_address {base path : String} (hbase : '?' ∉ base.toList)
    (hpath : '?' ∉ path.toList) : '?' ∉ (Text.withoutTrailingSlashes base ++ path).toList := by
  rw [String.toList_append, List.mem_append, not_or]
  refine ⟨fun hmark => hbase ?_, hpath⟩
  rw [Text.withoutTrailingSlashes, String.toList_ofList, Text.dropEndWhile,
    List.mem_reverse] at hmark
  exact List.mem_reverse.mp ((List.dropWhile_sublist _).subset hmark)

/-- The groups of an expression that was read make queries whose addresses carry the text of the
query, the bounds of the window, the limit and the step, as far as there are any, each once and
nothing else: flow queries for all and for any of the matches, and queries of both stores for what a
request asks for, of metrics whose names end no parameter. This takes an address of the store that
holds no question mark and can be read with the path of queries after it; without that, the raw
address is refused and nothing is sent. An address that can be read alone can be read with a path,
unless it ends in a blank or is a lone sign where a user and a host are named. -/
theorem carries_parameters {base filters : String} {e : Expression} {g : Group}
    (hbase : '?' ∉ base.toList) (hparse : Expression.parse filters = .ok e) (hg : g ∈ e) :
    (Url.IsBase base →
      Url.TakesPath base LogQL.rangePath ∧ Url.TakesPath base PromQL.rangePath) ∧
    (∀ catalog options q any, FlowQuery.ofGroup catalog options g = .ok q →
      ∃ text raw, (q.matching any).body false = .ok text ∧ (q.matching any).url base = .ok raw ∧
        Url.Sends base LogQL.rangePath raw (FlowQuery.parameters options text)) ∧
    ∀ ps now r, Request.Metrics.read ps now = .ok r →
      (∀ catalog q, TopologyQuery.ofGroup catalog r.flow r.metric g = .ok q →
        ∃ text raw, q.body = .ok text ∧ q.url base = .ok raw ∧
          Url.Sends base LogQL.rangePath raw (TopologyQuery.parameters r.flow r.metric text)) ∧
      ∀ x w raw, '&' ∉ x.name.toList → PromQL.url base x g r.metric w = .ok raw →
        ∃ text, PromQL.body x g r.metric = .ok text ∧
          Url.Sends base PromQL.rangePath raw (PromQL.parameters r.metric w text) := by
  have hinner : PromQL.IsInner g := fun m hm =>
    amp_not_mem_of_admitted (Filter.admitted_of_parse hparse hg hm)
  have hsends {path : String} (hpath : Url.IsPath path.toList) {params : List (String × String)}
      (h : Url.IsRaw params) : Url.Sends base path
        (Text.withoutTrailingSlashes base ++ path ++ "?" ++ Url.rawText params) params :=
    have haddress := mark_not_mem_address hbase hpath.signs.2.2
    ⟨Url.carries_iff haddress h, Url.isRefused_iff haddress h⟩
  refine ⟨fun h => ⟨h.exists_read LogQL.isPath_rangePath, h.exists_read PromQL.isPath_rangePath⟩,
    fun catalog options q any hq => ?_, fun ps now r hread => ⟨fun catalog q hq => ?_, ?_⟩⟩
  · obtain ⟨text, htext, hamp⟩ := FlowQuery.exists_inner_body hq hinner any false
    have hoptions : (q.matching any).options = options :=
      (FlowQuery.options_matching q any).trans (FlowQuery.fixed_of_foldlM hq).2
    refine ⟨text, _, htext, FlowQuery.url_eq_parameters htext base, ?_⟩
    rw [hoptions]
    exact hsends LogQL.isPath_rangePath (LogQL.FlowQuery.isRaw_parameters options hamp)
  · obtain ⟨text, htext, hamp⟩ := TopologyQuery.exists_inner_body hq hinner
      (isInner_metric hread)
    obtain ⟨-, hoptions, hmetric⟩ := TopologyQuery.fixed_ofGroup hq
    refine ⟨text, _, htext, TopologyQuery.url_eq_parameters htext base, ?_⟩
    rw [hoptions, hmetric]
    exact hsends LogQL.isPath_rangePath
      (LogQL.TopologyQuery.isRaw_parameters r.flow (isInner_metric hread) hamp)
  · intro x w raw hname hraw
    obtain ⟨text, htext, rfl⟩ := PromQL.exists_body_of_url hraw
    have hamp := PromQL.amp_not_mem_body hname hinner (isInner_metric hread) htext
    exact ⟨text, htext, hsends PromQL.isPath_rangePath
      (PromQL.isRaw_parameters w (isInner_metric hread) hamp)⟩

/-- The parameters of a request for bytes by namespaces, in a window. -/
def windowedParameters : Request.Parameters :=
  [("startTime", "0"), ("endTime", "300"), ("type", "Bytes"), ("aggregateBy", "namespace")]

/-- The addresses of the queries of a group with filters of several kinds. -/
theorem carries_parameters_severalKinds :
    Expression.parse "SrcK8S_Namespace=ns1&Port=80&Addr=10.0.0.1" = .ok [severalKinds] ∧
      (∃ q text raw, FlowQuery.ofGroup namespaceCatalog { limit := some 50 } severalKinds = .ok q ∧
        (q.matching true).body false = .ok text ∧
        (q.matching true).url "http://store:9090/" = .ok raw ∧
        Url.Carries raw [("query", text), ("limit", "50")]) ∧
      ∃ r, Request.Metrics.read windowedParameters 0 = .ok r ∧
        (∃ q text raw, TopologyQuery.ofGroup namespaceCatalog r.flow r.metric severalKinds = .ok q ∧
          q.body = .ok text ∧ q.url "http://store:9090/" = .ok raw ∧
          Url.Carries raw (TopologyQuery.parameters r.flow r.metric text)) ∧
        ∃ text raw, PromQL.body PromQL.sentBytes severalKinds r.metric = .ok text ∧
          PromQL.url "http://store:9090/" PromQL.sentBytes severalKinds r.metric r.promWindow =
            .ok raw ∧
          Url.Carries raw (PromQL.parameters r.metric r.promWindow text) := by
  have hparse : Expression.parse "SrcK8S_Namespace=ns1&Port=80&Addr=10.0.0.1" =
      .ok [severalKinds] := by
    decide +kernel
  have hbase : Url.IsBase "http://store:9090/" :=
    ⟨by decide +kernel, by decide, by decide +kernel⟩
  have hmark : '?' ∉ "http://store:9090/".toList := by decide
  obtain ⟨hpaths, hflow, hmetrics⟩ := carries_parameters hmark hparse List.mem_cons_self
  obtain ⟨hloki, hprom⟩ := hpaths hbase
  refine ⟨hparse, ?_, ?_⟩
  · have hok :
        (FlowQuery.ofGroup namespaceCatalog { limit := some 50 } severalKinds).isOk = true := by
      decide +kernel
    obtain ⟨q, hq⟩ := Outcome.exists_of_isOk hok
    obtain ⟨text, raw, htext, hraw, hcarries, -⟩ := hflow _ _ q true hq
    exact ⟨q, text, raw, hq, htext, hraw, hcarries.mpr hloki⟩
  · have hdecided : ((Request.Metrics.read windowedParameters 0).map fun r =>
        (TopologyQuery.ofGroup namespaceCatalog r.flow r.metric severalKinds).isOk &&
          (PromQL.url "http://store:9090/" PromQL.sentBytes severalKinds r.metric
            r.promWindow).isOk).toOption = some true := by
      decide +kernel
    cases hread : Request.Metrics.read windowedParameters 0 with
    | error e =>
      rw [hread] at hdecided
      cases hdecided
    | ok r =>
      rw [hread] at hdecided
      obtain ⟨htopology, hmetric⟩ := Bool.and_eq_true_iff.mp (Option.some_inj.mp hdecided)
      obtain ⟨hqueries, haddresses⟩ := hmetrics _ _ r hread
      obtain ⟨q, hq⟩ := Outcome.exists_of_isOk htopology
      obtain ⟨text, raw, htext, hraw, hcarries, -⟩ := hqueries namespaceCatalog q hq
      obtain ⟨raw', hraw'⟩ := Outcome.exists_of_isOk hmetric
      obtain ⟨text', htext', hcarries', -⟩ :=
        haddresses PromQL.sentBytes r.promWindow raw' (by decide) hraw'
      exact ⟨r, rfl, ⟨q, text, raw, hq, htext, hraw, hcarries.mpr hloki⟩,
        text', raw', htext', hraw', hcarries'.mpr hprom⟩

/-- An address that can be read, but ends in a blank, cannot be read with a path after it: nothing
is sent. -/
theorem not_carries_blank :
    (Url.read "http://loki:3100 ".toList).isOk = true ∧ '?' ∉ "http://loki:3100 ".toList ∧
      Expression.parse "SrcK8S_Namespace=ns1" =
        .ok [[{ key := "SrcK8S_Namespace", values := "ns1" }]] ∧
      ∃ q raw, FlowQuery.ofGroup namespaceCatalog {}
          [{ key := "SrcK8S_Namespace", values := "ns1" }] = .ok q ∧
        q.url "http://loki:3100 " = .ok raw ∧ Url.IsRefused raw ∧
        ∀ params, ¬Url.Carries raw params := by
  have hparse : Expression.parse "SrcK8S_Namespace=ns1" =
      .ok [[{ key := "SrcK8S_Namespace", values := "ns1" }]] := by
    decide +kernel
  have hurl : (FlowQuery.ofGroup namespaceCatalog {}
      [{ key := "SrcK8S_Namespace", values := "ns1" }] >>= fun q => q.url "http://loki:3100 ") =
        .ok ("http://loki:3100 /loki/api/v1/query_range?query=" ++
          "\x7bapp=\"netobserv-flowcollector\",SrcK8S_Namespace=~\"(?i).*ns1.*\"\x7d") := by
    decide +kernel
  obtain ⟨q, hq, hraw⟩ := Outcome.bind_eq_ok.mp hurl
  have hsent : Url.ofRaw ("http://loki:3100 /loki/api/v1/query_range?query=" ++
      "\x7bapp=\"netobserv-flowcollector\",SrcK8S_Namespace=~\"(?i).*ns1.*\"\x7d") =
        .error .invalidPort := by
    decide +kernel
  refine ⟨by decide +kernel, by decide, hparse, q, _, hq, hraw,
    Url.isRefused_of_ofRaw hsent, ?_⟩
  rintro params ⟨u, query, hu, -, -⟩
  rw [hsent] at hu
  cases hu

end Service

end FlowConsole
