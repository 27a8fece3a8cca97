import FlowConsole.Proofs.LogQL.AnyMatch

/-!
# What matches add

What a match adds to a query depends on the catalog and the match only, not on what the query holds
already (`addMatch_eq`). It is one label filter, one line filter or one clause, and it comes last
among those of its kind. The matches of a group add what they add one by one, up to the first that
is refused (`addGroup_eq`).
-/

open FlowConsole.Filter (Group Match)

namespace FlowConsole.LogQL

/-- What a match adds to a query. -/
inductive Addition
  | label (f : LabelFilter)
  | line (f : LineFilter)
  | clause (c : Clause)
  deriving DecidableEq, Repr

namespace Addition

/-- The label filter that is added, if it is one. -/
def label? : Addition → Option LabelFilter
  | label f => some f
  | _ => none

/-- The line filter that is added, if it is one. -/
def line? : Addition → Option LineFilter
  | line f => some f
  | _ => none

/-- The clause that is added, if it is one. -/
def clause? : Addition → Option Clause
  | clause c => some c
  | _ => none

/-- What the catalog makes of a match. -/
def ofMatch (c : Catalog) (m : Match) : Except QueryError Addition :=
  let fields := FlowQuery.fieldsOf c m.key
  if m.regex then
    let f := LabelFilter.regex m.key m.values m.negated
    .ok (if c.isLabel m.key then label f else clause (.single f))
  else if m.atLeast then (FlowQuery.lineOf c m).map line
  else if c.isLabel m.key then .ok (label (.ofAtoms m.key m.atoms m.negated))
  else if FlowQuery.isLabelledPair c m.key then
    .ok (clause ⟨!m.negated, fields.map (LabelFilter.ofAtoms · m.atoms m.negated)⟩)
  else if c.isAddress m.key then
    .ok (clause ⟨!m.negated, fields.flatMap fun field =>
      m.atoms.map fun atom => .address field (Atom.unquoted atom) m.negated⟩)
  else if m.atoms.contains FlowQuery.emptyAtom then
    .ok (clause ⟨!m.negated, fields.map (LabelFilter.anyOf · m.atoms m.negated)⟩)
  else (FlowQuery.lineOf c m).map line

/-- The matches that are accepted: those before the first that is refused. -/
def accepted (c : Catalog) (g : Group) : Group := g.takeWhile fun m => (ofMatch c m).isOk

/-- What the accepted matches add. -/
def ofGroup (c : Catalog) (g : Group) : List Addition :=
  (accepted c g).filterMap fun m => (ofMatch c m).toOption

section

variable {c : Catalog} {m : Match} {g : Group}

/-- A first match that is no error is accepted before the others. -/
theorem accepted_cons_of_ok {a : Addition} (h : ofMatch c m = .ok a) :
    accepted c (m :: g) = m :: accepted c g := by
  rw [accepted, List.takeWhile_cons, h]
  rfl

/-- No match is accepted from an error on. -/
theorem accepted_cons_of_error {e : QueryError} (h : ofMatch c m = .error e) :
    accepted c (m :: g) = [] := by
  rw [accepted, List.takeWhile_cons, h]
  rfl

/-- A first match that is no error adds what it makes before the others. -/
theorem ofGroup_cons_of_ok {a : Addition} (h : ofMatch c m = .ok a) :
    ofGroup c (m :: g) = a :: ofGroup c g := by
  rw [ofGroup, accepted_cons_of_ok h, List.filterMap_cons, h]
  rfl

/-- Nothing is added from an error on. -/
theorem ofGroup_cons_of_error {e : QueryError} (h : ofMatch c m = .error e) :
    ofGroup c (m :: g) = [] := by
  rw [ofGroup, accepted_cons_of_error h]
  rfl

end

/-- Each accepted match adds one thing. -/
theorem forall₂_ofGroup (c : Catalog) (g : Group) :
    List.Forall₂ (fun m a => ofMatch c m = .ok a) (accepted c g) (ofGroup c g) := by
  induction g with
  | nil => exact .nil
  | cons m g ih =>
    cases hm : ofMatch c m with
    | error e =>
      rw [accepted_cons_of_error hm, ofGroup_cons_of_error hm]
      exact .nil
    | ok a =>
      rw [accepted_cons_of_ok hm, ofGroup_cons_of_ok hm]
      exact .cons hm ih

end Addition

namespace FlowQuery

variable {q : FlowQuery}

/-- The query with one more filter, which comes last. -/
def add (q : FlowQuery) : Addition → FlowQuery
  | .label f => q.addLabel f
  | .line f => q.addLine f
  | .clause c => q.addClause c

/-- An addition leaves the catalog as it is. -/
@[simp] theorem catalog_add (q : FlowQuery) (a : Addition) : (q.add a).catalog = q.catalog := by
  cases a <;> rfl

/-- An addition leaves the fixed labels as they are. -/
@[simp] theorem fixedLabels_add (q : FlowQuery) (a : Addition) :
    (q.add a).fixedLabels = q.fixedLabels := by
  cases a <;> rfl

/-- An addition leaves the fixed line filters as they are. -/
@[simp] theorem fixedLines_add (q : FlowQuery) (a : Addition) :
    (q.add a).fixedLines = q.fixedLines := by
  cases a <;> rfl

/-- What an addition leaves as it is stays when more are added. -/
theorem foldl_add_eq {α : Type} {part : FlowQuery → α} (h : ∀ q a, part (q.add a) = part q)
    (q : FlowQuery) (as : List Addition) : part (as.foldl add q) = part q := by
  induction as generalizing q with
  | nil => rfl
  | cons a as ih => rw [List.foldl_cons, ih, h]

/-- A match that is not refused adds what the catalog makes of it. -/
theorem addMatch_eq (q : FlowQuery) (m : Match) :
    q.addMatch m = (Addition.ofMatch q.catalog m).map q.add := by
  rw [addMatch, Addition.ofMatch]
  dsimp only
  split_ifs
  · rfl
  · rfl
  · cases lineOf q.catalog m <;> rfl
  · rfl
  · rfl
  · rfl
  · rfl
  · cases lineOf q.catalog m <;> rfl

/-- A group adds what its accepted matches add, in order. -/
theorem addGroup_eq (q : FlowQuery) (g : Group) :
    (q.addGroup g).1 = (Addition.ofGroup q.catalog g).foldl add q := by
  induction g generalizing q with
  | nil => rfl
  | cons m g ih =>
    rw [addGroup, addMatch_eq]
    cases hm : Addition.ofMatch q.catalog m with
    | error e =>
      rw [Addition.ofGroup_cons_of_error hm]
      rfl
    | ok a =>
      have hrest := ih (q.add a)
      rw [catalog_add] at hrest
      rw [Addition.ofGroup_cons_of_ok hm]
      exact hrest

/-- A group none of whose matches is refused adds what its matches add, in order. -/
theorem foldlM_addMatch (q : FlowQuery) (g : Group) :
    g.foldlM addMatch q = (g.mapM (Addition.ofMatch q.catalog)).map fun as => as.foldl add q := by
  induction g generalizing q with
  | nil => rfl
  | cons m g ih =>
    rw [List.foldlM_cons, List.mapM_cons, addMatch_eq]
    cases Addition.ofMatch q.catalog m with
    | error e => rfl
    | ok a =>
      have hrest := ih (q.add a)
      rw [catalog_add] at hrest
      change g.foldlM addMatch (q.add a) = _
      rw [hrest]
      cases g.mapM (Addition.ofMatch q.catalog) <;> rfl

/-- A clause that a match adds is not empty. -/
theorem filters_ne_nil_of_ofMatch {c : Catalog} {m : Match} {clause : Clause}
    (h : Addition.ofMatch c m = .ok (.clause clause)) : clause.filters ≠ [] := by
  -- what a match adds to any query of the catalog is what it adds to this one
  have hadd : (ofOptions c {}).addMatch m = .ok ((ofOptions c {}).addClause clause) := by
    rw [addMatch_eq]
    change (Addition.ofMatch c m).map _ = _
    rw [h]
    rfl
  rcases addMatch_routes hadd with ⟨-, f, -, hf⟩ | ⟨-, ⟨f, hf⟩ | ⟨clause', hne, hc⟩⟩
  · have := congrArg FlowQuery.clauses hf
    cases this
  · have := congrArg FlowQuery.clauses hf
    cases this
  · have hclauses : [clause] = [clause'] := congrArg FlowQuery.clauses hc
    rw [List.singleton_inj.mp hclauses]
    exact hne

end FlowQuery

end FlowConsole.LogQL
