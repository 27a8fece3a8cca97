import FlowConsole.Fanout
import FlowConsole.Proofs.Merge.Gathering
import FlowConsole.Proofs.Outcome
import Mathlib.Tactic.Choose

/-!
# Fan-out and the order of answers

Queries that are sent at once end in some order, each of them once. The answers are noted by the
places of their queries, so that the order in which they came is forgotten: if all are answered, the
response is that of a merger to which the answers are added in the order of the queries
(`fetch_completion`). Before that, the first failure to come in is the failure of the request.
-/

open FlowConsole.Response (Answer)

namespace FlowConsole.Fanout

/-- An order in which `n` queries end: each of them, and none twice. -/
structure Completion (n : Nat) where
  order : List (Fin n)
  nodup : order.Nodup
  complete : ∀ i, i ∈ order

/-- The endings as they come in. -/
def Completion.endings {n : Nat} (c : Completion n) (ending : Fin n → Ending) : Endings :=
  c.order.map fun i => (i.val, ending i)

/-- The query was answered: the store replied with a status code of success and a body that can be
decoded. -/
inductive Ending.Answered : Ending → Answer → Prop
  | replied {status : Nat} {body : Utf8.Bytes} {a : Answer} (hlow : 200 ≤ status)
    (hhigh : status < 300) (h : Answer.decode body = .ok a) : Answered (.replied ⟨status, body⟩) a

/-- The query of the store has failed: it got no reply, was given up, was refused by the status
code, or the body of the reply cannot be decoded. -/
inductive Ending.Failed (source : DataSource) : Ending → Failure → Prop
  | store (e : Store.Error) : Failed source (.failed e) (.store source e)
  | cancelled : Failed source .cancelled (.unavailable .cancelled)
  | refused {status : Nat} {body : Utf8.Bytes} (h : ¬(200 ≤ status ∧ status < 300)) :
    Failed source (.replied ⟨status, body⟩)
      (.refused source status (Utf8.decodeTolerant body))
  | undecodable {status : Nat} {body : Utf8.Bytes} {e : Response.Error} (hlow : 200 ≤ status)
    (hhigh : status < 300) (h : Answer.decode body = .error e) :
    Failed source (.replied ⟨status, body⟩) (.internal (.undecodable source e))

/-- The store is configured. -/
def Configured (stores : Stores) (source : DataSource) : Prop :=
  source = .loki ∧ stores.loki = true ∨ source = .prom ∧ stores.prom = true

/-- What a merger responds. -/
def responseOf : Merge.Merger → Merge.Response
  | .streams _ merged => ⟨.streams merged.groups, merged.stats⟩
  | .matrix _ merged => ⟨.matrix merged.groups, merged.stats⟩

/-- The response when answers are added in order, or the failure of the first that is refused. -/
def merged (merger : Merge.Merger) (answers : List Answer) : Except Failure Merge.Response :=
  match answers.foldlM Merge.Merger.add merger with
  | .ok m => .ok (responseOf m)
  | .error e => .error (.internal (.merge e))

/-! ### Endings -/

private theorem answer_replied (source : DataSource) (reply : Store.Reply) :
    Ending.answer source (.replied reply) =
      if reply.isSuccess then
        (Answer.decode reply.body).mapError fun e => .internal (.undecodable source e)
      else .error (.refused source reply.status reply.text) := by
  rw [Ending.answer, Ending.reply, Outcome.ok_bind]
  rfl

private theorem isSuccess_iff {reply : Store.Reply} :
    reply.isSuccess = true ↔ 200 ≤ reply.status ∧ reply.status < 300 := by
  rw [Store.Reply.isSuccess, Bool.and_eq_true, decide_eq_true_iff, decide_eq_true_iff]

/-- An answered query has its answer. -/
theorem Ending.Answered.answer_eq {e : Ending} {a : Answer} (h : e.Answered a)
    (source : DataSource) : e.answer source = .ok a := by
  cases h with
  | @replied status body a hlow hhigh h =>
    rw [answer_replied, if_pos (isSuccess_iff.mpr ⟨hlow, hhigh⟩), h]
    rfl

/-- A failed query has its failure. -/
theorem Ending.Failed.answer_eq {source : DataSource} {e : Ending} {f : Failure}
    (h : e.Failed source f) : e.answer source = .error f := by
  cases h with
  | store e => rfl
  | cancelled => rfl
  | refused h =>
    rw [answer_replied, if_neg (mt isSuccess_iff.mp h)]
    rfl
  | undecodable hlow hhigh h =>
    rw [answer_replied, if_pos (isSuccess_iff.mpr ⟨hlow, hhigh⟩), h]
    rfl

/-- Each query is answered or fails. -/
theorem Ending.answered_or_failed (e : Ending) (source : DataSource) :
    (∃ a, e.Answered a) ∨ ∃ f, e.Failed source f := by
  cases e with
  | failed e => exact .inr ⟨_, .store e⟩
  | cancelled => exact .inr ⟨_, .cancelled⟩
  | replied reply =>
    by_cases h : 200 ≤ reply.status ∧ reply.status < 300
    · cases hdecode : Answer.decode reply.body with
      | ok a => exact .inl ⟨a, .replied h.1 h.2 hdecode⟩
      | error e => exact .inr ⟨_, .undecodable h.1 h.2 hdecode⟩
    · exact .inr ⟨_, .refused h⟩

/-! ### The noted answers -/

/-- The answers noted once the queries in `ended` have ended. -/
def noted {n : Nat} (answers : Fin n → Answer) (ended : List (Fin n)) : List (Option Answer) :=
  List.ofFn fun i => if i ∈ ended then some (answers i) else none

/-- At first nothing is noted. -/
theorem noted_nil (queries : List StoreQuery) (answers : Fin queries.length → Answer) :
    queries.map (fun _ => none) = noted answers [] := by
  apply List.ext_getElem
  · rw [List.length_map, noted, List.length_ofFn]
  · intro i hi hj
    simp [noted]

/-- An answer is noted at the place of its query and nowhere else. -/
theorem set_noted {n : Nat} (answers : Fin n → Answer) (ended : List (Fin n)) (i : Fin n) :
    (noted answers ended).set i.val (some (answers i)) = noted answers (ended ++ [i]) := by
  apply List.ext_getElem
  · rw [List.length_set, noted, noted, List.length_ofFn, List.length_ofFn]
  · intro j hj hk
    rw [noted, List.length_ofFn] at hk
    rw [List.getElem_set]
    by_cases hij : i.val = j
    · have hi : (⟨j, hk⟩ : Fin n) = i := Fin.ext hij.symm
      simp [noted, hij, hi]
    · have hi : (⟨j, hk⟩ : Fin n) ≠ i := fun h => hij (congrArg Fin.val h.symm)
      simp [noted, hij, hi]

/-- Once all queries have ended, all answers are noted, in the order of the queries. -/
theorem filterMap_noted {n : Nat} (answers : Fin n → Answer) (c : Completion n) :
    (noted answers c.order).filterMap id = List.ofFn answers := by
  have hall : noted answers c.order = (List.ofFn answers).map some := by
    rw [noted, List.map_ofFn]
    congr 1
    funext i
    rw [if_pos (c.complete i)]
    rfl
  rw [hall, List.filterMap_map]
  exact List.filterMap_some

/-! ### Collecting -/

section

variable {queries : List StoreQuery} {ending : Fin queries.length → Ending}

/-- One answer that comes in is noted. -/
theorem collect_cons_ok (slots : List (Option Answer)) (i : Fin queries.length) (rest : Endings)
    {a : Answer} (h : (ending i).Answered a) :
    collect queries slots ((i.val, ending i) :: rest) =
      collect queries (slots.set i.val (some a)) rest := by
  rw [collect, List.getElem?_eq_getElem i.isLt]
  dsimp only
  rw [h.answer_eq]

/-- A failure that comes in ends the collecting. -/
theorem collect_cons_error (slots : List (Option Answer)) (i : Fin queries.length)
    (rest : Endings) {e : Failure} (h : (ending i).Failed queries[i].source e) :
    collect queries slots ((i.val, ending i) :: rest) = .error e := by
  have hanswer : (ending i).answer queries[i.val].source = .error e := h.answer_eq
  rw [collect, List.getElem?_eq_getElem i.isLt]
  dsimp only
  rw [hanswer]

/-- While all queries succeed, exactly the answers of those that have ended are noted. -/
theorem collect_ok (answers : Fin queries.length → Answer) (ended order : List (Fin queries.length))
    (h : ∀ i ∈ order, (ending i).Answered (answers i)) :
    collect queries (noted answers ended) (order.map fun i => (i.val, ending i)) =
      .ok (noted answers (ended ++ order)) := by
  induction order generalizing ended with
  | nil => rw [List.append_nil]; rfl
  | cons i rest ih =>
    have hr := ih (ended ++ [i]) fun j hj => h j (List.mem_cons_of_mem _ hj)
    rw [List.map_cons, collect_cons_ok _ _ _ (h i List.mem_cons_self), set_noted, hr,
      List.append_assoc, List.singleton_append]

/-- The first query that fails, in the order in which they end, gives the failure. -/
theorem collect_error (slots : List (Option Answer)) (before after : List (Fin queries.length))
    (i : Fin queries.length) {e : Failure}
    (hb : ∀ j ∈ before, ∃ a, (ending j).Answered a)
    (hi : (ending i).Failed queries[i].source e) :
    collect queries slots ((before ++ i :: after).map fun j => (j.val, ending j)) = .error e := by
  induction before generalizing slots with
  | nil => exact collect_cons_error slots i _ hi
  | cons j rest ih =>
    obtain ⟨a, ha⟩ := hb j List.mem_cons_self
    rw [List.cons_append, List.map_cons, collect_cons_ok _ _ _ ha]
    exact ih _ fun k hk => hb k (List.mem_cons_of_mem _ hk)

end

/-! ### The response -/

private theorem has_iff {stores : Stores} {source : DataSource} :
    stores.has source = true ↔ Configured stores source := by
  cases source <;> simp [Stores.has, Configured]

private theorem rejection_of_absent (stores : Stores) (before after : List StoreQuery)
    (q : StoreQuery) (hb : ∀ p ∈ before, Configured stores p.source)
    (hq : ¬Configured stores q.source) :
    rejection? stores (before ++ q :: after) = some (.notConfigured q.source) := by
  have hf : (before ++ q :: after).find? (fun p => !stores.has p.source) = some q := by
    rw [List.find?_append, List.find?_eq_none.mpr, Option.none_or, List.find?_cons_of_pos]
    · rw [Bool.eq_false_iff.mpr (mt has_iff.mp hq)]
      rfl
    · intro p hp
      rw [has_iff.mpr (hb p hp)]
      exact Bool.false_ne_true
  rw [rejection?, if_neg (by simp), hf]
  rfl

private theorem rejection_eq_none {stores : Stores} {queries : List StoreQuery}
    (hn : queries ≠ []) (hs : ∀ q ∈ queries, Configured stores q.source) :
    rejection? stores queries = none := by
  have hf : queries.find? (fun q => !stores.has q.source) = none := by
    apply List.find?_eq_none.mpr
    intro q hq
    rw [has_iff.mpr (hs q hq)]
    exact Bool.false_ne_true
  rw [rejection?, if_neg (by simpa using hn), hf]
  rfl

private theorem merged_eq (merger : Merge.Merger) (answers : List Answer) :
    ((merger.addAll answers).mapError fun e => Failure.internal (.merge e)) >>=
      (fun m => .ok m.response) = merged merger answers := by
  rw [Merge.Merger.addAll, merged]
  cases List.foldlM Merge.Merger.add merger answers with
  | error e => rfl
  | ok m => cases m <;> rfl

/-- Queries that end in any order, each of them answered or failed. Without a query, or with one for
a store that is not configured, the request is rejected. Otherwise, if all are answered, the answers
are added in the order of the queries, whatever the order in which they came; and if some fail, the
first of these to end gives the failure, without any merged data. -/
theorem fetch_completion (stores : Stores) (queries : List StoreQuery)
    (ending : Fin queries.length → Ending) (c : Completion queries.length)
    (merger : Merge.Merger) :
    (queries = [] →
      fetch stores queries (c.endings ending) merger = .error (.rejected .noQueries)) ∧
    (∀ before q after, queries = before ++ q :: after →
      (∀ p ∈ before, Configured stores p.source) → ¬Configured stores q.source →
      fetch stores queries (c.endings ending) merger =
        .error (.rejected (.notConfigured q.source))) ∧
    (∀ i, (∃ a, (ending i).Answered a) ∨ ∃ e, (ending i).Failed queries[i].source e) ∧
    (queries ≠ [] → (∀ q ∈ queries, Configured stores q.source) →
      (∀ answers, (∀ i, (ending i).Answered (answers i)) →
        fetch stores queries (c.endings ending) merger = merged merger (List.ofFn answers)) ∧
      (∀ before i after e, c.order = before ++ i :: after →
        (∀ j ∈ before, ∃ a, (ending j).Answered a) → (ending i).Failed queries[i].source e →
        fetch stores queries (c.endings ending) merger = .error e)) := by
  refine ⟨?_, ?_, fun i => (ending i).answered_or_failed _, ?_⟩
  · rintro rfl
    rfl
  · rintro before q after rfl hb hq
    rw [fetch, rejection_of_absent stores before after q hb hq]
    rfl
  · intro hn hs
    rw [fetch, rejection_eq_none hn hs]
    refine ⟨?_, ?_⟩
    · intro answers ha
      have hc : collect queries (queries.map fun _ => none) (c.endings ending) =
          .ok (noted answers c.order) := by
        rw [noted_nil queries answers]
        exact collect_ok answers [] c.order fun i _ => ha i
      dsimp only
      rw [hc, Outcome.ok_bind, filterMap_noted]
      exact merged_eq merger (List.ofFn answers)
    · intro before i after e ho hb hi
      have hc : collect queries (queries.map fun _ => none) (c.endings ending) = .error e := by
        rw [Completion.endings, ho]
        exact collect_error _ before after i hb hi
      dsimp only
      rw [hc]
      rfl

/-- A body with one log line. -/
def lineBody (line : String) : Utf8.Bytes :=
  Utf8.encode ("\x7b\"data\":\x7b\"resultType\":\"streams\",\"result\":[\x7b\"stream\":" ++
    "\x7b\x7d,\"values\":[[\"1\",\"" ++ line ++ "\"]]\x7d]\x7d\x7d")

/-- Two queries of the log store. -/
def twoQueries : List StoreQuery := [⟨.loki, "a"⟩, ⟨.loki, "b"⟩]

/-- The lines of two queries. -/
def twoLines (i : Fin twoQueries.length) : String := if i.val = 0 then "x" else "y"

/-- The replies to two queries. -/
def twoReplies (i : Fin twoQueries.length) : Ending := .replied ⟨200, lineBody (twoLines i)⟩

/-- The second of two queries ends first. -/
def secondFirst : Completion 2 := ⟨[1, 0], by decide, by decide⟩

/-- The lines of a response. -/
def linesOf (r : Merge.Response) : List String :=
  match r.result with
  | .streams ss => (Merge.allItems ss).map (·.line)
  | .matrix _ => []

/-- The answers to two queries are merged in the order of the queries though the second ends first.
-/
theorem fetch_completion_secondFirst :
    ∃ answers, (∀ i, (twoReplies i).Answered (answers i)) ∧
      fetch ⟨true, false⟩ twoQueries (secondFirst.endings twoReplies) (.start .streams 10) =
        merged (.start .streams 10) (List.ofFn answers) ∧
      (merged (.start .streams 10) (List.ofFn answers)).map linesOf = .ok ["x", "y"] := by
  have hok : ∀ i, (Answer.decode (lineBody (twoLines i))).isOk = true := by decide +kernel
  choose answers hanswers using fun i => Outcome.exists_of_isOk (hok i)
  have hall (i : Fin twoQueries.length) : (twoReplies i).Answered (answers i) :=
    .replied (by decide) (by decide) (hanswers i)
  obtain ⟨-, -, -, h⟩ :=
    fetch_completion ⟨true, false⟩ twoQueries twoReplies secondFirst (.start .streams 10)
  have hstores : ∀ q ∈ twoQueries, Configured ⟨true, false⟩ q.source := by
    simp [twoQueries, Configured]
  have hfetch := (h (by decide) hstores).1 answers hall
  have hlines : (fetch ⟨true, false⟩ twoQueries (secondFirst.endings twoReplies)
      (.start .streams 10)).map linesOf = .ok ["x", "y"] := by
    decide +kernel
  exact ⟨answers, hall, hfetch, hfetch ▸ hlines⟩

end FlowConsole.Fanout
