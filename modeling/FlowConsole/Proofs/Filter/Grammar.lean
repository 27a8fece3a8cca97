import FlowConsole.Proofs.Filter.Admitted
import FlowConsole.Proofs.Text.Combinators
import FlowConsole.Proofs.Text.Percent

/-!
# The grammar of expressions

A parameter encodes a text; a text writes an expression: its groups stand between bars, the segments
of a group between ampersands, and a segment writes a match unless it is dropped. Every text writes
just one expression, and reading a parameter gives it, unless a key or the values of a match are not
admitted; then the first such text in reading order is refused (`parse_iff`). A parser put together
from combinators reads the same, and never refuses a text on its own account.
-/

open FlowConsole.Text (Consists Parser)

namespace FlowConsole.Filter

/-! ### Texts and what they write -/

/-- The parameter with its plus signs as spaces and its escapes replaced is the UTF-8 form of the
text. -/
def Encodes (raw text : String) : Prop :=
  Percent.Decodes (Utf8.encode (.ofList (raw.toList.map fun c => if c = '+' then ' ' else c)))
    (Utf8.encode text)

/-- The parts are the text between the separators. -/
structure IsCut (separator : Char) (text : List Char) (parts : List (List Char)) : Prop where
  nonempty : parts ≠ []
  free : ∀ part ∈ parts, separator ∉ part
  joined : Text.joinPieces separator parts = text

/-- A segment that writes no match: it has no `=`, or nothing before its first one. -/
def IsDropped (segment : List Char) : Prop := '=' ∉ segment ∨ segment.head? = some '='

/-- The segment writes the match: its key up to the first `=`, with one sign at most between them
that stands for a flag, and its values after it. -/
inductive Match.Written : Match → List Char → Prop
  | negated {key values : List Char} : '=' ∉ key →
    Written { key := .ofList key, values := .ofList values, negated := true }
      (key ++ '!' :: '=' :: values)
  | atLeast {key values : List Char} : '=' ∉ key →
    Written { key := .ofList key, values := .ofList values, atLeast := true }
      (key ++ '>' :: '=' :: values)
  | regex {key values : List Char} : '=' ∉ key →
    Written { key := .ofList key, values := .ofList values, regex := true }
      (key ++ '~' :: '=' :: values)
  | plain {key values : List Char} : '=' ∉ key → key ≠ [] →
    (∀ sign ∈ ['!', '>', '~'], key.getLast? ≠ some sign) →
    Written { key := .ofList key, values := .ofList values } (key ++ '=' :: values)

/-- The segments that are not dropped write the matches of the group in order. -/
inductive Group.Segments : Group → List (List Char) → Prop
  | nil : Segments [] []
  | dropped {g : Group} {segment : List Char} {segments : List (List Char)} :
    IsDropped segment → Segments g segments → Segments g (segment :: segments)
  | kept {g : Group} {m : Match} {segment : List Char} {segments : List (List Char)} :
    m.Written segment → Segments g segments → Segments (m :: g) (segment :: segments)

/-- The text writes the group. -/
def Group.Written (g : Group) (text : List Char) : Prop :=
  ∃ segments, IsCut '&' text segments ∧ g.Segments segments

/-- The text writes the expression. -/
def Expression.Written (e : Expression) (text : String) : Prop :=
  ∃ groups, IsCut '|' text.toList groups ∧ List.Forall₂ Group.Written e groups

/-- The parameter encodes a text that writes the expression. -/
def Expression.Encoded (e : Expression) (raw : String) : Prop :=
  ∃ text, Encodes raw text ∧ e.Written text

/-- The text of the match that is not admitted: its key, or its values if the key is admitted. -/
inductive Match.Offends (m : Match) : String → Prop
  | key : isKey m.key.toList = false → Offends m m.key
  | values : isKey m.key.toList = true → ¬Consists isValueChar m.values → Offends m m.values

/-- The first text of the matches in order that is not admitted. -/
def FirstOffence (ms : List Match) (text : String) : Prop :=
  ∃ before m after, ms = before ++ m :: after ∧ (∀ n ∈ before, n.Admitted) ∧ m.Offends text

/-! ### Segments -/

/-- A text is cut into its pieces. -/
theorem isCut_iff {separator : Char} {text : List Char} {parts : List (List Char)} :
    IsCut separator text parts ↔ Text.pieces separator text = parts := by
  rw [Text.pieces_eq_iff]
  exact ⟨fun h => ⟨h.nonempty, h.free, h.joined⟩, fun h => ⟨h.1, h.2.1, h.2.2⟩⟩

/-- The segments that are dropped are those that are read as no match. -/
theorem ofSegment?_eq_none {segment : List Char} :
    Match.ofSegment? segment = none ↔ IsDropped segment := by
  rw [Match.ofSegment?, IsDropped]
  cases hcut : Text.cut? '=' segment with
  | none => exact iff_of_true rfl (.inl (Text.cut?_eq_none.mp hcut))
  | some p =>
    obtain ⟨key, values⟩ := p
    obtain ⟨rfl, hkey⟩ := Text.cut?_eq_some.mp hcut
    cases key with
    | nil => exact iff_of_true rfl (.inr rfl)
    | cons c key =>
      have hc : c ≠ '=' := fun hc => hkey (hc ▸ List.mem_cons_self)
      simp [hc]

private theorem cut?_sign {key values : List Char} {sign : Char} (hkey : '=' ∉ key)
    (hsign : sign ≠ '=') :
    Text.cut? '=' (key ++ sign :: '=' :: values) = some (key ++ [sign], values) := by
  rw [Text.cut?_eq_some, List.mem_append, List.mem_singleton, not_or]
  exact ⟨by rw [List.append_assoc]; rfl, hkey, hsign.symm⟩

private theorem written_sign {key values : List Char} {sign : Char}
    (h : key.getLast? = some sign) (hkey : '=' ∉ key) :
    '=' ∉ key.dropLast ∧ key ++ '=' :: values = key.dropLast ++ sign :: '=' :: values := by
  have hlast : key.dropLast ++ [sign] = key := List.dropLast_append_getLast? sign h
  refine ⟨fun hmem => hkey (key.dropLast_sublist.subset hmem), ?_⟩
  conv_lhs => rw [← hlast]
  rw [List.append_assoc]
  rfl

/-- A segment is read as the match that it writes. -/
theorem ofSegment?_eq_some {segment : List Char} {m : Match} :
    Match.ofSegment? segment = some m ↔ m.Written segment := by
  rw [Match.ofSegment?]
  constructor
  · intro h
    cases hcut : Text.cut? '=' segment with
    | none =>
      rw [hcut] at h
      cases h
    | some p =>
      obtain ⟨key, values⟩ := p
      obtain ⟨rfl, hkey⟩ := Text.cut?_eq_some.mp hcut
      rw [hcut] at h
      dsimp only at h
      split_ifs at h with hempty
      cases h
      rw [Match.ofKeyAndValues]
      split
      · next hlast =>
        obtain ⟨hfree, hsegment⟩ := written_sign hlast hkey
        rw [hsegment]
        exact .negated hfree
      · next hlast =>
        obtain ⟨hfree, hsegment⟩ := written_sign hlast hkey
        rw [hsegment]
        exact .atLeast hfree
      · next hlast =>
        obtain ⟨hfree, hsegment⟩ := written_sign hlast hkey
        rw [hsegment]
        exact .regex hfree
      · next hnot hmore hraw =>
        refine .plain hkey (by simpa using hempty) ?_
        simp only [List.forall_mem_cons, List.not_mem_nil, false_imp_iff, implies_true, and_true]
        exact ⟨hnot, hmore, hraw⟩
  · intro h
    cases h with
    | negated hkey => simp [cut?_sign hkey, Match.ofKeyAndValues]
    | atLeast hkey => simp [cut?_sign hkey, Match.ofKeyAndValues]
    | regex hkey => simp [cut?_sign hkey, Match.ofKeyAndValues]
    | @plain key values hkey hne hsigns =>
      rw [Text.cut?_append hkey]
      dsimp only
      rw [if_neg (by simpa using hne), Match.ofKeyAndValues]
      split
      · next hlast => exact absurd hlast (hsigns '!' (by decide))
      · next hlast => exact absurd hlast (hsigns '>' (by decide))
      · next hlast => exact absurd hlast (hsigns '~' (by decide))
      · rfl

/-! ### Groups and expressions -/

/-- The matches that segments write are those that they are read as. -/
theorem segments_iff {g : Group} {segments : List (List Char)} :
    g.Segments segments ↔ segments.filterMap Match.ofSegment? = g := by
  constructor
  · intro h
    induction h with
    | nil => rfl
    | dropped hdropped _ ih => rw [List.filterMap_cons_none (ofSegment?_eq_none.mpr hdropped), ih]
    | kept hwritten _ ih => rw [List.filterMap_cons_some (ofSegment?_eq_some.mpr hwritten), ih]
  · rintro rfl
    induction segments with
    | nil => exact .nil
    | cons segment segments ih =>
      cases hread : Match.ofSegment? segment with
      | none =>
        rw [List.filterMap_cons_none hread]
        exact .dropped (ofSegment?_eq_none.mp hread) ih
      | some m =>
        rw [List.filterMap_cons_some hread]
        exact .kept (ofSegment?_eq_some.mp hread) ih

/-- The matches of a text between bars, admitted or not. -/
def writtenGroup (text : List Char) : Group :=
  (Text.pieces '&' text).filterMap Match.ofSegment?

/-- The groups of a text, their matches admitted or not. -/
def writtenExpression (text : String) : Expression :=
  (Text.pieces '|' text.toList).map writtenGroup

/-- A text is written for the one group that is read from it. -/
theorem Group.written_iff {g : Group} {text : List Char} :
    g.Written text ↔ writtenGroup text = g := by
  simp only [Group.Written, isCut_iff, segments_iff, exists_eq_left', writtenGroup]

/-- A text writes just one expression. -/
theorem Expression.written_iff {e : Expression} {text : String} :
    e.Written text ↔ writtenExpression text = e := by
  have hgroup : Group.Written = fun g cs => g = writtenGroup cs := by
    funext g cs
    rw [eq_iff_iff, Group.written_iff, eq_comm]
  simp only [Expression.Written, isCut_iff, exists_eq_left', writtenExpression, hgroup]
  rw [← List.forall₂_map_right_iff (R := Eq), List.forall₂_eq_eq_eq, eq_comm]

/-! ### Outcomes -/

/-- A match that is not let through is refused by its first text that is not admitted. -/
theorem Match.admit_eq_error {m : Match} {e : Error} :
    m.admit = .error e ↔ ∃ text, e = .unauthorized text ∧ m.Offends text := by
  unfold Match.admit
  split_ifs with hkey hvalues
  · rw [Bool.not_eq_true'] at hkey
    constructor
    · intro h
      cases h
      exact ⟨m.key, rfl, .key hkey⟩
    · rintro ⟨text, rfl, h⟩
      cases h with
      | key => rfl
      | values hok => exact absurd hok (by simp [hkey])
  · rw [Bool.not_eq_true, Bool.not_eq_false'] at hkey
    have hno : ¬Consists isValueChar m.values := by
      intro h
      rw [List.all_eq_true.mpr h] at hvalues
      cases hvalues
    constructor
    · intro h
      cases h
      exact ⟨m.values, rfl, .values hkey hno⟩
    · rintro ⟨text, rfl, h⟩
      cases h with
      | key hbad => exact absurd hkey (by simp [hbad])
      | values => rfl
  · rw [Bool.not_eq_true, Bool.not_eq_false'] at hkey hvalues
    constructor
    · intro h
      cases h
    · rintro ⟨text, -, h⟩
      cases h with
      | key hbad => exact absurd hkey (by simp [hbad])
      | values _ hno => exact absurd (List.all_eq_true.mp hvalues) hno

/-- The matches of a text are let through group by group. -/
theorem Expression.ofText_eq (text : String) :
    Expression.ofText text.toList =
      (writtenExpression text).mapM fun g => g.mapM Match.admit := by
  rw [writtenExpression, List.mapM_map]
  rfl

/-- What is read from a text is what it writes, if that is admitted. -/
theorem Expression.ofText_eq_ok {text : String} {e : Expression} :
    Expression.ofText text.toList = .ok e ↔ e.Written text ∧ ∀ m ∈ e.flatten, m.Admitted := by
  have hgroup (g g' : Group) :
      g.mapM Match.admit = .ok g' ↔ (∀ m ∈ g, m.Admitted) ∧ g' = g :=
    Outcome.mapM_eq_ok_of_checks fun _ _ => Match.admit_eq_ok
  rw [Expression.ofText_eq, Outcome.mapM_eq_ok_of_checks hgroup, Expression.written_iff,
    List.forall_mem_flatten, and_comm, eq_comm (a := e)]
  exact and_congr_right fun he => by rw [he]

/-- What is refused in a text is the first text of its matches that is not admitted. -/
theorem Expression.ofText_eq_error {text : String} {e : Expression} (h : e.Written text)
    {err : Error} :
    Expression.ofText text.toList = .error err ↔
      ∃ bad, err = .unauthorized bad ∧ FirstOffence e.flatten bad := by
  rw [Expression.ofText_eq, Expression.written_iff.mp h, Outcome.mapM_mapM_eq_error,
    Outcome.mapM_eq_error]
  constructor
  · rintro ⟨before, m, after, hsplit, hbefore, hm⟩
    obtain ⟨bad, rfl, hbad⟩ := Match.admit_eq_error.mp hm
    refine ⟨bad, rfl, before, m, after, hsplit, fun n hn => ?_, hbad⟩
    obtain ⟨n', hn'⟩ := hbefore n hn
    exact (Match.admit_eq_ok.mp hn').1
  · rintro ⟨bad, rfl, before, m, after, hsplit, hbefore, hbad⟩
    exact ⟨before, m, after, hsplit, fun n hn => ⟨n, Match.admit_eq_ok.mpr ⟨hbefore n hn, rfl⟩⟩,
      Match.admit_eq_error.mpr ⟨bad, rfl, hbad⟩⟩

/-- A parameter is decoded to the text that it encodes. -/
theorem decodeParameter_eq_ok {raw text : String} :
    decodeParameter raw = .ok text ↔ Encodes raw text := by
  rw [decodeParameter, Encodes, Utf8.decode_eq_ok, Percent.decodes_iff]

/-! ### Combinators -/

namespace Grammar

/-- Why a text is refused: as an expression, or by the parser. -/
inductive Refusal
  | undecodable (reason : Utf8.Error)
  | malformed (e : Text.ParseError)
  | unauthorized (text : String)
  deriving DecidableEq

/-- A refusal that is not the parser's. -/
def Refusal.ofError : Error → Refusal
  | .undecodable reason => .undecodable reason
  | .unauthorized text => .unauthorized text

/-- What stands before the next ampersand or bar. -/
def segment : Parser (List Char) := .takeTill fun c => c == '&' || c == '|'

/-- The segments of the groups. -/
def groups : Parser (List (List (List Char))) :=
  .separated (.char '|') (.separated (.char '&') segment)

/-- What stands before the first `=` of a segment, which is not nothing, and what stands after. -/
def keyAndValues : Parser (List Char × List Char) :=
  .separatedPair (.takeTill1 fun c => c == '=') (.char '=') .rest

/-- The match of a segment; a segment that the parser refuses is dropped. -/
def match? (segment : List Char) : Option Match :=
  match keyAndValues segment with
  | .error _ => none
  | .ok ((key, values), _) => some (Match.ofKeyAndValues key values)

/-- The matches of a group, if they are admitted. -/
def readGroup (segments : List (List Char)) : Except Error Group :=
  (segments.filterMap match?).mapM Match.admit

/-- Reads the expression of a request parameter. -/
def parse (raw : String) : Except Refusal Expression :=
  match decodeParameter raw with
  | .error reason => .error (.undecodable reason)
  | .ok text =>
    match groups.whole text.toList with
    | .error e => .error (.malformed e)
    | .ok gs => (gs.mapM readGroup).mapError .ofError

/-- The parser accepts every text, and its groups and segments are the pieces of the text. -/
theorem whole_groups (cs : List Char) :
    groups.whole cs = .ok ((Text.pieces '|' cs).map (Text.pieces '&')) := by
  have hsegment (cs : List Char) : segment cs =
      .ok (id (cs.takeWhile fun c => c != '&' && !(c == '|')),
        cs.dropWhile fun c => c != '&' && !(c == '|')) := by
    simp [segment, Parser.takeTill, bne]
  have hgroup (cs : List Char) : Parser.separated (.char '&') segment cs =
      .ok (Text.pieces '&' (cs.takeWhile fun c => c != '|' && !false),
        cs.dropWhile fun c => c != '|' && !false) := by
    simpa [bne] using Parser.separated_eq_pieces rfl hsegment cs
  have hpieces : groups cs =
      .ok ((Text.pieces '|' (cs.takeWhile fun _ => !false)).map (Text.pieces '&'),
        cs.dropWhile fun _ => !false) :=
    Parser.separated_eq_pieces rfl hgroup cs
  have htake : (cs.takeWhile fun _ => !false) = cs := List.takeWhile_eq_self_iff.mpr fun _ _ => rfl
  have hdrop : (cs.dropWhile fun _ => !false) = [] := List.dropWhile_eq_nil_iff.mpr fun _ _ => rfl
  rw [Parser.whole, hpieces, htake, hdrop]
  rfl

/-- A segment is read as the match that it writes. -/
theorem match?_eq (segment : List Char) : match? segment = Match.ofSegment? segment := by
  rw [match?, keyAndValues, Parser.separatedPair, Parser.takeTill1, Match.ofSegment?]
  cases hcut : Text.cut? '=' segment with
  | none =>
    rw [Parser.takeTill_of_not_mem (Text.cut?_eq_none.mp hcut)]
    cases segment <;> rfl
  | some p =>
    obtain ⟨key, values⟩ := p
    obtain ⟨rfl, hkey⟩ := Text.cut?_eq_some.mp hcut
    rw [Parser.takeTill_append hkey]
    cases key <;> rfl

/-- The parser reads what cutting reads. -/
theorem parse_eq (raw : String) :
    parse raw = (Expression.parse raw).mapError Refusal.ofError := by
  have hgroup : readGroup ∘ Text.pieces '&' = Group.ofText := by
    funext cs
    rw [Function.comp_apply, readGroup, funext match?_eq, Group.ofText]
  rw [parse, Expression.parse]
  cases decodeParameter raw with
  | error reason => rfl
  | ok text =>
    dsimp only
    rw [whole_groups, Expression.ofText]
    dsimp only
    rw [List.mapM_map, hgroup]

end Grammar

/-! ### Parameters -/

/-- A parameter encodes one text at most, and so one expression. -/
theorem Expression.Encoded.unique {raw : String} {e e' : Expression} (h : e.Encoded raw)
    (h' : e'.Encoded raw) : e' = e := by
  obtain ⟨text, htext, he⟩ := h
  obtain ⟨text', htext', he'⟩ := h'
  obtain rfl : text = text' := Except.ok.inj
    ((decodeParameter_eq_ok.mpr htext).symm.trans (decodeParameter_eq_ok.mpr htext'))
  rw [← Expression.written_iff.mp he, ← Expression.written_iff.mp he']

/-- The expression of a parameter is read if it is admitted. -/
theorem Expression.Encoded.parse_eq_ok {raw : String} {e e' : Expression} (h : e.Encoded raw) :
    Expression.parse raw = .ok e' ↔ e' = e ∧ ∀ m ∈ e.flatten, m.Admitted := by
  obtain ⟨text, htext, he⟩ := h
  rw [Expression.parse, decodeParameter_eq_ok.mpr htext]
  dsimp only
  rw [Expression.ofText_eq_ok, Expression.written_iff, Expression.written_iff.mp he, eq_comm]
  exact and_congr_right fun heq => by rw [heq]

/-- The expression of a parameter is refused by what is not admitted first. -/
theorem Expression.Encoded.parse_eq_error {raw : String} {e : Expression} (h : e.Encoded raw)
    {err : Error} :
    Expression.parse raw = .error err ↔
      ∃ bad, err = .unauthorized bad ∧ FirstOffence e.flatten bad := by
  obtain ⟨text, htext, he⟩ := h
  rw [Expression.parse, decodeParameter_eq_ok.mpr htext]
  exact Expression.ofText_eq_error he

/-- A match that has an offending text is not admitted. -/
theorem Match.Offends.not_admitted {m : Match} {text : String} (h : m.Offends text) :
    ¬m.Admitted := by
  intro hm
  cases h with
  | key hbad => exact absurd hm.key (by simp [hbad])
  | values _ hbad => exact hbad hm.values

/-- The expression of a parameter is refused just if one of its matches is not admitted. -/
theorem Expression.Encoded.exists_parse_eq_error {raw : String} {e : Expression}
    (h : e.Encoded raw) :
    (∃ bad, Expression.parse raw = .error (.unauthorized bad)) ↔ ∃ m ∈ e.flatten, ¬m.Admitted := by
  constructor
  · rintro ⟨bad, hparse⟩
    obtain ⟨_, -, before, m, after, hsplit, -, hm⟩ := h.parse_eq_error.mp hparse
    exact ⟨m, by rw [hsplit]; simp, hm.not_admitted⟩
  · rintro ⟨m, hm, hbad⟩
    cases hparse : Expression.parse raw with
    | ok e' => exact absurd ((h.parse_eq_ok.mp hparse).2 m hm) hbad
    | error err =>
      obtain ⟨bad, rfl, -⟩ := h.parse_eq_error.mp hparse
      exact ⟨bad, rfl⟩

/-- A parameter is refused as undecodable if it encodes no text. Else it is read as the expression
that its text writes if all its keys and values are admitted, and refused by the first of them that
is not, the key of a match coming before its values. A parser built from combinators does the same,
and never refuses a text itself. -/
theorem parse_iff (raw : String) :
    ((∃ reason, Expression.parse raw = .error (.undecodable reason)) ↔
        ¬∃ text, Encodes raw text) ∧
      ((∃ bad, Expression.parse raw = .error (.unauthorized bad)) ↔
        ∃ e : Expression, e.Encoded raw ∧ ∃ m ∈ e.flatten, ¬m.Admitted) ∧
      (∀ bad, Expression.parse raw = .error (.unauthorized bad) ↔
        ∃ e : Expression, e.Encoded raw ∧ FirstOffence e.flatten bad) ∧
      (∀ e, Expression.parse raw = .ok e ↔ e.Encoded raw ∧ ∀ m ∈ e.flatten, m.Admitted) ∧
      Grammar.parse raw = (Expression.parse raw).mapError Grammar.Refusal.ofError := by
  by_cases hraw : ∃ text, Encodes raw text
  · obtain ⟨e, h⟩ : ∃ e : Expression, e.Encoded raw := by
      obtain ⟨text, htext⟩ := hraw
      exact ⟨writtenExpression text, text, htext, Expression.written_iff.mpr rfl⟩
    have honly (p : Expression → Prop) : (∃ e' : Expression, e'.Encoded raw ∧ p e') ↔ p e := by
      constructor
      · rintro ⟨e', h', hp⟩
        exact h.unique h' ▸ hp
      · exact fun hp => ⟨e, h, hp⟩
    refine ⟨iff_of_false ?_ (not_not_intro hraw), ?_, fun bad => ?_, fun e' => ?_,
      Grammar.parse_eq raw⟩
    · rintro ⟨reason, hparse⟩
      obtain ⟨bad, hbad, -⟩ := h.parse_eq_error.mp hparse
      cases hbad
    · rw [honly, h.exists_parse_eq_error]
    · rw [honly, h.parse_eq_error]
      simp
    · rw [h.parse_eq_ok]
      constructor
      · rintro ⟨rfl, hadmitted⟩
        exact ⟨h, hadmitted⟩
      · rintro ⟨h', hadmitted⟩
        obtain rfl := h.unique h'
        exact ⟨rfl, hadmitted⟩
  · obtain ⟨reason, hparse⟩ : ∃ reason, Expression.parse raw = .error (.undecodable reason) := by
      cases hdecode : decodeParameter raw with
      | error reason => exact ⟨reason, by rw [Expression.parse, hdecode]⟩
      | ok text => exact absurd ⟨text, decodeParameter_eq_ok.mp hdecode⟩ hraw
    have hnone (e : Expression) : ¬e.Encoded raw := by
      rintro ⟨text, htext, -⟩
      exact hraw ⟨text, htext⟩
    refine ⟨iff_of_true ⟨reason, hparse⟩ hraw, ?_, fun bad => ?_, fun e => ?_, Grammar.parse_eq raw⟩
    · simp [hparse, hnone]
    · simp [hparse, hnone]
    · simp [hparse, hnone]

/-- Segments without an `=` or a key are dropped, groups are not. -/
example : Expression.parse "|Proto&=6&Proto%3E=6" =
    .ok [[], [{ key := "Proto", values := "6", atLeast := true }]] := by
  decide +kernel

end FlowConsole.Filter
