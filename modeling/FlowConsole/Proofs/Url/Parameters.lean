import FlowConsole.Metric.Aggregate
import FlowConsole.Proofs.Text.Characters
import FlowConsole.Url.Reading

/-!
# Names of raw parameters

The query of an address is written as raw text, and cut into parameters before it is sent. What is
written inside a value leaves the names of the parameters as they are exactly if it holds no sign
that ends a parameter (`parameterNames_insert`).
-/

namespace FlowConsole.Url

/-! ### Queries -/

/-- The names of the parameters of a raw query. -/
def queryNames (query : List Char) : List (List Char) := (rawParameters query).map Prod.fst

private theorem pieces_append_cons (sep : Char) (a b : List Char) :
    Text.pieces sep (a ++ sep :: b) = Text.pieces sep a ++ Text.pieces sep b := by
  induction a with
  | nil => exact Text.pieces_append_sep List.not_mem_nil b
  | cons c a ih =>
    rw [List.cons_append, Text.pieces, Text.pieces, ih]
    split
    · rfl
    · cases hp : Text.pieces sep a with
      | nil => exact absurd hp (Text.pieces_ne_nil sep a)
      | cons p ps => rfl

/-- The names before and after a sign that ends a parameter are those of the two parts. -/
theorem queryNames_append_cons (a b : List Char) :
    queryNames (a ++ '&' :: b) = queryNames a ++ queryNames b := by
  rw [queryNames, rawParameters, pieces_append_cons, List.filter_append, List.map_append,
    List.map_append]
  rfl

/-- A parameter has one name. -/
theorem queryNames_of_not_mem {a : List Char} (h : '&' ∉ a) (hne : a ≠ []) :
    queryNames a = [(Text.cutOrAll '=' a).1] := by
  have hkept : [a].filter (!·.isEmpty) = [a] := by
    rw [List.filter_eq_self, List.forall_mem_singleton, Bool.not_eq_true',
      List.isEmpty_eq_false_iff]
    exact hne
  rw [queryNames, rawParameters, Text.pieces_of_not_mem h, hkept]
  rfl

/-- A query with another character than the sign that ends parameters has a parameter. -/
theorem queryNames_ne_nil {a : List Char} {c : Char} (hc : c ∈ a) (hne : c ≠ '&') :
    queryNames a ≠ [] := by
  intro hnil
  rw [queryNames, rawParameters, List.map_eq_nil_iff, List.map_eq_nil_iff,
    List.filter_eq_nil_iff] at hnil
  -- if all pieces are empty, nothing but the signs between them is left
  have hempty : ∀ piece ∈ Text.pieces '&' a, piece = [] := by
    intro piece hpiece
    have := hnil piece hpiece
    rwa [Bool.not_eq_true, Bool.not_eq_false', List.isEmpty_iff] at this
  have hsigns : ∀ d ∈ Text.joinPieces '&' (Text.pieces '&' a), (d == '&') = true := by
    refine Text.forall_mem_joinPieces (beq_self_eq_true '&') fun piece hpiece d hd => ?_
    rw [hempty piece hpiece] at hd
    cases hd
  rw [Text.joinPieces_pieces] at hsigns
  exact hne (beq_iff_eq.mp (hsigns c hc))

/-- What stands before a text in a query contributes names of its own and the start of the first
parameter of the text. -/
theorem exists_before (a : List Char) :
    ∃ left u, '&' ∉ u ∧ ∀ z, queryNames (a ++ z) = left ++ queryNames (u ++ z) := by
  by_cases ha : '&' ∈ a
  · -- the last sign is the first from behind
    obtain ⟨t, s, hts, ht⟩ := List.eq_append_cons_of_mem (List.mem_reverse.mpr ha)
    have hsplit : a = s.reverse ++ '&' :: t.reverse := by
      rw [← List.reverse_reverse a, hts]
      simp
    refine ⟨queryNames s.reverse, t.reverse, by rwa [List.mem_reverse], fun z => ?_⟩
    rw [hsplit, List.append_assoc, List.cons_append, queryNames_append_cons]
  · exact ⟨[], a, ha, fun z => rfl⟩

/-- What stands after a text in a query contributes the end of the last parameter of the text and
names of its own. -/
theorem exists_after (b : List Char) :
    ∃ right v, '&' ∉ v ∧ ∀ z, queryNames (z ++ b) = queryNames (z ++ v) ++ right := by
  by_cases hb : '&' ∈ b
  · obtain ⟨v, rest, rfl, hv⟩ := List.eq_append_cons_of_mem hb
    refine ⟨queryNames rest, v, hv, fun z => ?_⟩
    rw [← List.append_assoc, queryNames_append_cons]
  · exact ⟨[], b, hb, fun z => (List.append_nil _).symm⟩

/-! ### Insertions -/

-- The name of a parameter depends on what stands before its first sign of equality only.
private theorem exists_name (u : List Char) :
    ∃ name, ∀ z, (Text.cutOrAll '=' (u ++ '=' :: z)).1 = name := by
  by_cases hu : '=' ∈ u
  · obtain ⟨name, rest, rfl, hname⟩ := List.eq_append_cons_of_mem hu
    refine ⟨name, fun z => ?_⟩
    rw [Text.cutOrAll, List.append_assoc, List.cons_append, Text.cut?_append hname]
    rfl
  · refine ⟨u, fun z => ?_⟩
    rw [Text.cutOrAll, Text.cut?_append hu]
    rfl

/-- What is inserted in a value leaves the names as they are, if it does not end the parameter. -/
theorem queryNames_insert {x y ins : List Char} (hy : '&' ∉ y) (hins : '&' ∉ ins) (b : List Char) :
    queryNames (x ++ '=' :: y ++ ins ++ b) = queryNames (x ++ '=' :: y ++ b) := by
  obtain ⟨left, u, hu, hleft⟩ := exists_before x
  obtain ⟨right, v, hv, hright⟩ := exists_after b
  obtain ⟨name, hname⟩ := exists_name u
  have hone (w : List Char) (hw : '&' ∉ w) : queryNames (u ++ '=' :: w) = [name] := by
    have hmem : '&' ∉ u ++ '=' :: w := by simp [hu, hw]
    rw [queryNames_of_not_mem hmem (List.append_ne_nil_of_right_ne_nil u (List.cons_ne_nil '=' w)),
      hname]
  have hvalue (w : List Char) (hw : '&' ∉ w) :
      queryNames (x ++ '=' :: w ++ b) = left ++ [name] ++ right := by
    have hend : '&' ∉ w ++ v := by simp [hw, hv]
    rw [hright, List.append_assoc, List.cons_append, hleft, hone (w ++ v) hend]
  have hboth : '&' ∉ y ++ ins := by simp [hy, hins]
  have hassoc : x ++ '=' :: y ++ ins ++ b = x ++ '=' :: (y ++ ins) ++ b := by simp
  rw [hassoc, hvalue (y ++ ins) hboth, hvalue y hy]

/-- A text that ends a parameter, but neither starts nor ends with the sign, makes two names
wherever it stands. -/
theorem two_le_length_queryNames {ins : List Char} (hins : '&' ∈ ins)
    (hhead : ins.head? ≠ some '&') (hlast : ins.getLast? ≠ some '&') (u v : List Char) :
    2 ≤ (queryNames (u ++ ins ++ v)).length := by
  obtain ⟨i, j, rfl, hi⟩ := List.eq_append_cons_of_mem hins
  have hbefore : queryNames (u ++ i) ≠ [] := by
    cases i with
    | nil => exact absurd rfl hhead
    | cons c i =>
      have hc : c ≠ '&' := fun h => hi (h ▸ List.mem_cons_self)
      exact queryNames_ne_nil (List.mem_append_right u List.mem_cons_self) hc
  have hafter : queryNames (j ++ v) ≠ [] := by
    rw [List.getLast?_append, List.getLast?_cons] at hlast
    cases hj : j.getLast? with
    | none =>
      rw [hj] at hlast
      exact absurd rfl hlast
    | some d =>
      rw [hj] at hlast
      have hd : d ≠ '&' := fun h => hlast (by rw [h]; rfl)
      exact queryNames_ne_nil (List.mem_append_left v (List.mem_of_getLast? hj)) hd
  have hassoc : u ++ (i ++ '&' :: j) ++ v = u ++ i ++ '&' :: (j ++ v) := by simp
  rw [hassoc, queryNames_append_cons, List.length_append]
  have h₁ := List.length_pos_iff.mpr hbefore
  have h₂ := List.length_pos_iff.mpr hafter
  omega

/-- What is inserted makes more names, if it ends a parameter but not with its last character, and
starts with another character. -/
theorem length_queryNames_insert {ins : List Char} (hins : '&' ∈ ins)
    (hhead : ins.head? ≠ some '&') (hlast : ins.getLast? ≠ some '&') (a b : List Char) :
    (queryNames (a ++ b)).length < (queryNames (a ++ ins ++ b)).length := by
  obtain ⟨left, u, hu, hleft⟩ := exists_before a
  obtain ⟨right, v, hv, hright⟩ := exists_after b
  -- without the insertion there is at most one name here
  have hfew : (queryNames (u ++ v)).length ≤ 1 := by
    have hmem : '&' ∉ u ++ v := by simp [hu, hv]
    by_cases hne : u ++ v = []
    · rw [hne]
      decide
    · rw [queryNames_of_not_mem hmem hne]
      exact Nat.le_refl 1
  have hmany := two_le_length_queryNames hins hhead hlast u v
  have hwith : queryNames (a ++ ins ++ b) = left ++ queryNames (u ++ ins ++ v) ++ right := by
    have hassoc : a ++ ins ++ v = a ++ (ins ++ v) := List.append_assoc a ins v
    rw [hright, hassoc, hleft, List.append_assoc u]
  have hwithout : queryNames (a ++ b) = left ++ queryNames (u ++ v) ++ right := by
    rw [hright, hleft]
  rw [hwith, hwithout, List.length_append, List.length_append, List.length_append,
    List.length_append]
  omega

/-! ### Texts without the sign between parameters -/

/-- A text of characters of a kind without the sign that ends a parameter holds none. -/
theorem amp_not_mem_of_consists {p : Char → Bool} {text : String} (h : Text.Consists p text)
    (hp : p '&' = false) : '&' ∉ text.toList := by
  intro hamp
  rw [h '&' hamp] at hp
  cases hp

/-- Joined texts hold no sign that ends a parameter if none of them does. -/
theorem amp_not_mem_join {sep : String} (hsep : '&' ∉ sep.toList) {texts : List String}
    (h : ∀ text ∈ texts, '&' ∉ text.toList) : '&' ∉ (Text.join sep texts).toList := by
  rw [Text.mem_join hsep]
  rintro ⟨text, htext, hamp⟩
  exact h text htext hamp

/-- The operators that keep series hold no sign. -/
theorem amp_not_mem_topOperator (f : Metric.Function) : '&' ∉ f.topOperator.toList := by
  cases f <;> decide

/-- The names of the functions over log lines hold no sign. -/
theorem amp_not_mem_rangeFunction (f : Metric.Function) : '&' ∉ f.rangeFunction.toList := by
  cases f <;> decide

/-- The quantile in front of log lines holds no sign. -/
theorem amp_not_mem_quantile (f : Metric.Function) :
    '&' ∉ ((f.quantile?.map (· ++ ",")).getD "").toList := by
  cases f <;> decide

/-- The labels of an aggregation hold no sign between commas if none of them does alone. -/
theorem amp_not_mem_joined {a : Metric.Aggregate} (h : ∀ label ∈ a.labels, '&' ∉ label.toList) :
    '&' ∉ a.joined.toList :=
  amp_not_mem_join (by decide) h

/-- A number holds no sign. -/
theorem amp_not_mem_toString (n : Nat) : '&' ∉ (toString n).toList := by
  have hdigits : '&' ∉ Nat.toDigits 10 n := by
    intro h
    exact absurd (Nat.isDigit_of_mem_toDigits (by decide) (by decide) h) (by decide)
  simpa using hdigits

/-! ### Addresses -/

/-- The names of the parameters of a raw address; none without a question mark. -/
def parameterNames (raw : String) : List (List Char) :=
  ((Text.cut? '?' raw.toList).map fun p => queryNames p.2).getD []

/-- The start of an address ends inside the value of a parameter. -/
def EndsInValue (a : String) : Prop :=
  ∃ x y, a.toList = x ++ '=' :: y ∧ '?' ∈ x ∧ '&' ∉ y

/-- An address that ends in the name of a parameter and a sign of equality ends in its value. -/
theorem endsInValue_append (base : String) {path : String} {x : List Char}
    (h : path.toList = x ++ ['=']) (hx : '?' ∈ x) : EndsInValue (base ++ path) := by
  refine ⟨base.toList ++ x, [], ?_, List.mem_append_right _ hx, List.not_mem_nil⟩
  rw [String.toList_append, h, List.append_assoc]

/-- More text that does not end the parameter is in its value. -/
theorem EndsInValue.append {a b : String} (h : EndsInValue a) (hb : '&' ∉ b.toList) :
    EndsInValue (a ++ b) := by
  obtain ⟨x, y, hxy, hx, hy⟩ := h
  refine ⟨x, y ++ b.toList, ?_, hx, ?_⟩
  · rw [String.toList_append, hxy, List.append_assoc, List.cons_append]
  · rw [List.mem_append, not_or]
    exact ⟨hy, hb⟩

/-- An address has a query where a value starts. -/
theorem EndsInValue.mark_mem {a : String} (h : EndsInValue a) : '?' ∈ a.toList := by
  obtain ⟨x, y, hxy, hx, -⟩ := h
  rw [hxy]
  exact List.mem_append_left _ hx

/-- What is inserted in a value leaves the names of the parameters as they are, if it does not end
the parameter. -/
theorem parameterNames_insert_of_not_mem {a ins : String} (ha : EndsInValue a)
    (hins : '&' ∉ ins.toList) (b : String) :
    parameterNames (a ++ ins ++ b) = parameterNames (a ++ b) := by
  obtain ⟨x, y, hxy, hx, hy⟩ := ha
  obtain ⟨base, x', rfl, hbase⟩ := List.eq_append_cons_of_mem hx
  have hnames (b : String) : parameterNames (a ++ b) = queryNames (x' ++ '=' :: y ++ b.toList) := by
    rw [parameterNames, String.toList_append, hxy, List.append_assoc, List.append_assoc,
      List.cons_append, Text.cut?_append hbase]
    simp
  rw [String.append_assoc, hnames, hnames, String.toList_append, ← List.append_assoc,
    queryNames_insert hy hins]

/-- What is inserted in an address makes more names, if it ends a parameter but not with its last
character, and starts with another character. -/
theorem length_parameterNames_insert {a ins : String} (ha : '?' ∈ a.toList)
    (hins : '&' ∈ ins.toList) (hhead : ins.toList.head? ≠ some '&')
    (hlast : ins.toList.getLast? ≠ some '&') (b : String) :
    (parameterNames (a ++ b)).length < (parameterNames (a ++ ins ++ b)).length := by
  obtain ⟨base, query, hquery, hbase⟩ := List.eq_append_cons_of_mem ha
  have hnames (b : String) : parameterNames (a ++ b) = queryNames (query ++ b.toList) := by
    rw [parameterNames, String.toList_append, hquery, List.append_assoc, List.cons_append,
      Text.cut?_append hbase]
    rfl
  rw [String.append_assoc, hnames, hnames, String.toList_append, ← List.append_assoc]
  exact length_queryNames_insert hins hhead hlast query b.toList

/-- What is inserted in a value, and neither starts nor ends with the sign that ends a parameter,
leaves the names of the parameters as they are exactly if it does not hold the sign. -/
theorem parameterNames_insert {a ins : String} (ha : EndsInValue a)
    (hhead : ins.toList.head? ≠ some '&') (hlast : ins.toList.getLast? ≠ some '&') (b : String) :
    parameterNames (a ++ ins ++ b) = parameterNames (a ++ b) ↔ '&' ∉ ins.toList := by
  constructor
  · intro hsame hins
    have hmore := length_parameterNames_insert ha.mark_mem hins hhead hlast b
    rw [hsame] at hmore
    exact Nat.lt_irrefl _ hmore
  · intro hins
    exact parameterNames_insert_of_not_mem ha hins b

/-- The same holds of what is inserted twice in one value. -/
theorem parameterNames_insert_twice {a ins b : String} (ha : EndsInValue a) (hb : '&' ∉ b.toList)
    (hhead : ins.toList.head? ≠ some '&') (hlast : ins.toList.getLast? ≠ some '&') (c : String) :
    parameterNames (a ++ ins ++ b ++ ins ++ c) = parameterNames (a ++ b ++ c) ↔
      '&' ∉ ins.toList := by
  have hfirst : a ++ ins ++ b ++ c = a ++ ins ++ (b ++ c) := String.append_assoc
  have hnone : a ++ b ++ c = a ++ (b ++ c) := String.append_assoc
  constructor
  · intro hsame hins
    have hmark : '?' ∈ (a ++ ins ++ b).toList := by
      rw [String.append_assoc, String.toList_append]
      exact List.mem_append_left _ ha.mark_mem
    have hone := length_parameterNames_insert ha.mark_mem hins hhead hlast (b ++ c)
    have htwo := length_parameterNames_insert hmark hins hhead hlast c
    rw [hsame, hfirst, hnone] at htwo
    omega
  · intro hins
    have hvalue : EndsInValue (a ++ ins ++ b) := (ha.append hins).append hb
    rw [parameterNames_insert_of_not_mem hvalue hins, hfirst,
      parameterNames_insert_of_not_mem ha hins, hnone]

end FlowConsole.Url
