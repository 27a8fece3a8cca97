import FlowConsole.Proofs.Filter.Admitted
import FlowConsole.Proofs.Text.Percent

/-!
# Expressions and their texts

The expressions that have a text are those with at least one group whose matches are admitted and
carry at most one flag. They are just the expressions that are read from some text, and each of them
is read from its own, however many of its characters are written as escapes (`expressible_iff`).
-/

open FlowConsole.Text (Consists)

namespace FlowConsole.Filter

/-- A match that its text determines: it is admitted, and at most one flag is set. -/
structure Match.Expressible (m : Match) : Prop extends m.Admitted where
  flags : [m.negated, m.atLeast, m.regex].count true ≤ 1

/-- An expression that its text determines: there is a group, and the text determines every match.
A group may be empty. -/
structure Expression.Expressible (e : Expression) : Prop where
  nonempty : e ≠ []
  all : ∀ g ∈ e, ∀ m ∈ g, m.Expressible

/-! ### Characters -/

/-- A character in the text of a match. -/
def isMatchChar (c : Char) : Bool :=
  isKeyRest c || isValueChar c || c == '!' || c == '>' || c == '~' || c == '='

/-- A character in the text of an expression. -/
def isExpressionChar (c : Char) : Bool := isMatchChar c || c == '&' || c == '|'

private theorem not_mem_of_consists {p : Char → Bool} {c : Char} {s : String} (h : Consists p s)
    (hc : p c = false) : c ∉ s.toList := by
  intro hmem
  have hp := h c hmem
  rw [hc] at hp
  cases hp

private theorem isMatchChar_separators : isMatchChar '&' = false ∧ isMatchChar '|' = false := by
  simp [isMatchChar, isKeyRest, isValueChar, Text.isAsciiWord]

private theorem isExpressionChar_encoded :
    isExpressionChar '%' = false ∧ isExpressionChar '+' = false := by
  simp [isExpressionChar, isMatchChar, isKeyRest, isValueChar, Text.isAsciiWord]

private theorem consists_sign (m : Match) : Consists isMatchChar m.sign := by
  rw [Match.sign]
  split_ifs <;> simp [Consists, isMatchChar]

/-- The text of an admitted match is made of characters of matches. -/
theorem Match.Admitted.consists_render {m : Match} (h : m.Admitted) :
    Consists isMatchChar m.render := by
  have hkey : Consists isMatchChar m.key :=
    h.key_chars.mono fun c hc => by simp [isMatchChar, hc]
  have hvalues : Consists isMatchChar m.values :=
    h.values.mono fun c hc => by simp [isMatchChar, hc]
  rw [Match.render]
  simp only [Text.consists_append]
  exact ⟨⟨⟨hkey, consists_sign m⟩, by simp [Consists, isMatchChar]⟩, hvalues⟩

private theorem consists_group {g : Group} (h : ∀ m ∈ g, m.Admitted) :
    Consists (fun c => isExpressionChar c && c != '|') g.render := by
  apply Text.consists_join (by simp [Consists, isExpressionChar])
  rw [List.forall_mem_map]
  intro m hm c hc
  have hmc := (h m hm).consists_render c hc
  have hne : c ≠ '|' := by
    rintro rfl
    exact not_mem_of_consists (h m hm).consists_render isMatchChar_separators.2 hc
  simp [isExpressionChar, hmc, hne]

/-- The text of an expression of admitted matches is made of characters of expressions. -/
theorem consists_expression {e : Expression} (h : ∀ g ∈ e, ∀ m ∈ g, m.Admitted) :
    Consists isExpressionChar e.render := by
  apply Text.consists_join (by simp [Consists, isExpressionChar])
  rw [List.forall_mem_map]
  intro g hg
  exact (consists_group (h g hg)).mono fun c hc => (Bool.and_eq_true_iff.mp hc).1

/-! ### Matches -/

/-- The sign before the `=` is read as the flag that it stands for. -/
theorem ofKeyAndValues_render {m : Match} (h : m.Expressible) :
    Match.ofKeyAndValues (m.key.toList ++ m.sign.toList) m.values.toList = m := by
  obtain ⟨key, values, negated, atLeast, regex⟩ := m
  have hflags := h.flags
  cases negated with
  | true =>
    cases atLeast <;> cases regex <;> simp [Match.ofKeyAndValues, Match.sign] at hflags ⊢
  | false =>
    cases atLeast with
    | true => cases regex <;> simp [Match.ofKeyAndValues, Match.sign] at hflags ⊢
    | false =>
      cases regex with
      | true => simp [Match.ofKeyAndValues, Match.sign]
      | false =>
        -- nothing stands before the `=` but the key, whose last character is no sign
        have hlast (c : Char) (hc : isKeyRest c = false) : key.toList.getLast? ≠ some c := by
          intro hl
          exact not_mem_of_consists h.key_chars hc (List.mem_of_getLast? hl)
        have hnot := hlast '!' (by simp [isKeyRest, Text.isAsciiWord])
        have hmore := hlast '>' (by simp [isKeyRest, Text.isAsciiWord])
        have hraw := hlast '~' (by simp [isKeyRest, Text.isAsciiWord])
        change Match.ofKeyAndValues (key.toList ++ []) values.toList = _
        rw [List.append_nil, Match.ofKeyAndValues]
        split
        · next hc => exact absurd hc hnot
        · next hc => exact absurd hc hmore
        · next hc => exact absurd hc hraw
        · rw [String.ofList_toList, String.ofList_toList]

/-- The text of a match is read as the match. -/
theorem ofSegment?_render {m : Match} (h : m.Expressible) :
    Match.ofSegment? m.render.toList = some m := by
  have htext : m.render.toList = (m.key.toList ++ m.sign.toList) ++ '=' :: m.values.toList := by
    simp [Match.render, String.toList_append]
  have hkey : '=' ∉ m.key.toList :=
    not_mem_of_consists h.key_chars (by simp [isKeyRest, Text.isAsciiWord])
  have hsign : '=' ∉ m.sign.toList := by
    rw [Match.sign]
    split_ifs <;> decide
  have hne : m.key.toList ≠ [] := by
    intro he
    have hk := h.key
    rw [he] at hk
    cases hk
  have hcut : '=' ∉ m.key.toList ++ m.sign.toList := by
    rw [List.mem_append, not_or]
    exact ⟨hkey, hsign⟩
  rw [Match.ofSegment?, htext, Text.cut?_append hcut]
  dsimp only
  rw [if_neg (by simp [hne]), ofKeyAndValues_render h]

/-- A match that is read carries at most one flag. -/
theorem flags_of_ofSegment? {segment : List Char} {m : Match}
    (h : Match.ofSegment? segment = some m) : [m.negated, m.atLeast, m.regex].count true ≤ 1 := by
  rw [Match.ofSegment?] at h
  split at h
  · cases h
  · split at h
    · cases h
    · cases h
      rw [Match.ofKeyAndValues]
      split <;> simp

/-! ### Groups and expressions -/

/-- The text of a group is read as the group. -/
theorem Group.ofText_render {g : Group} (h : ∀ m ∈ g, m.Expressible) :
    Group.ofText g.render.toList = .ok g := by
  have hsegments : (Text.pieces '&' g.render.toList).filterMap Match.ofSegment? = g := by
    rw [Group.render, Text.toList_join (c := '&') rfl, List.map_map]
    cases g with
    | nil => rfl
    | cons m rest =>
      have hne : (m :: rest).map (String.toList ∘ Match.render) ≠ [] := List.cons_ne_nil _ _
      rw [Text.pieces_joinPieces hne, List.filterMap_map]
      · calc (m :: rest).filterMap (Match.ofSegment? ∘ String.toList ∘ Match.render)
          _ = (m :: rest).filterMap some :=
            List.filterMap_congr fun n hn => ofSegment?_render (h n hn)
          _ = m :: rest := List.filterMap_some
      · rw [List.forall_mem_map]
        intro n hn
        exact not_mem_of_consists (h n hn).consists_render isMatchChar_separators.1
  rw [Group.ofText, hsegments]
  apply Outcome.mapM_eq_ok.mpr
  rw [List.forall₂_same]
  exact fun m hm => Match.admit_eq_ok.mpr ⟨(h m hm).toAdmitted, rfl⟩

/-- The text of an expression is read as the expression. -/
theorem Expression.ofText_render {e : Expression} (h : e.Expressible) :
    Expression.ofText e.render.toList = .ok e := by
  have hgroups : Text.pieces '|' e.render.toList = e.map fun g => g.render.toList := by
    rw [Expression.render, Text.toList_join (c := '|') rfl, List.map_map]
    apply Text.pieces_joinPieces
    · rw [ne_eq, List.map_eq_nil_iff]
      exact h.nonempty
    · rw [List.forall_mem_map]
      intro g hg
      exact not_mem_of_consists (consists_group fun m hm => (h.all g hg m hm).toAdmitted) (by simp)
  rw [Expression.ofText, hgroups]
  apply Outcome.mapM_eq_ok.mpr
  rw [List.forall₂_map_left_iff, List.forall₂_same]
  exact fun g hg => Group.ofText_render (h.all g hg)

/-- What is read from a text is determined by its own text. -/
theorem expressible_of_parse {raw : String} {e : Expression} (h : Expression.parse raw = .ok e) :
    e.Expressible := by
  rw [Expression.parse] at h
  split at h
  · cases h
  · next text _ =>
    have hgroups := Outcome.mapM_eq_ok.mp h
    constructor
    · rintro rfl
      have hnil := List.forall₂_nil_right_iff.mp hgroups
      exact Text.pieces_ne_nil '|' text.toList hnil
    · intro g hg m hm
      obtain ⟨cs, -, hcs⟩ := Outcome.exists_of_mem_mapM h hg
      obtain ⟨n, hn, hnm⟩ := Outcome.exists_of_mem_mapM hcs hm
      obtain ⟨hadmitted, rfl⟩ := Match.admit_eq_ok.mp hnm
      obtain ⟨segment, -, hsegment⟩ := List.mem_filterMap.mp hn
      exact ⟨hadmitted, flags_of_ofSegment? hsegment⟩

/-! ### Spellings -/

/-- A parameter that spells a text is decoded to it, if the text has no percent and no plus sign. -/
theorem decodeParameter_spells {raw text : String} (h : Percent.Spells raw.toList text.toList)
    (hpercent : '%' ∉ text.toList) (hplus : '+' ∉ text.toList) :
    decodeParameter raw = .ok text := by
  have hspaced : (raw.toList.map fun c => if c = '+' then ' ' else c) = raw.toList := by
    have hid : ∀ c ∈ raw.toList, (if c = '+' then ' ' else c) = id c := by
      intro c hc
      have hne : c ≠ '+' := fun he => h.plus_not_mem hplus (he ▸ hc)
      rw [if_neg hne]
      rfl
    rw [List.map_congr_left hid, List.map_id]
  rw [decodeParameter, hspaced, String.ofList_toList, Utf8.encode, Percent.decode_spells h hpercent]
  exact Utf8.decode_encode text

/-- An expression is read from each spelling of its text. -/
theorem parse_of_spells {e : Expression} (h : e.Expressible) {raw : String}
    (hraw : Percent.Spells raw.toList e.render.toList) : Expression.parse raw = .ok e := by
  have hchars := consists_expression fun g hg m hm => (h.all g hg m hm).toAdmitted
  have hdecode : decodeParameter raw = .ok e.render :=
    decodeParameter_spells hraw (not_mem_of_consists hchars isExpressionChar_encoded.1)
      (not_mem_of_consists hchars isExpressionChar_encoded.2)
  rw [Expression.parse, hdecode]
  exact Expression.ofText_render h

/-- The expressions that are read from some text are just those that their text determines, and they
are just those that are read from their own text, with any of its characters written as escapes. -/
theorem expressible_iff (e : Expression) :
    ((∃ raw, Expression.parse raw = .ok e) ↔ e.Expressible) ∧
      (e.Expressible ↔ ∀ raw : String, Percent.Spells raw.toList e.render.toList →
        Expression.parse raw = .ok e) := by
  refine ⟨⟨?_, ?_⟩, ⟨?_, ?_⟩⟩
  · rintro ⟨raw, h⟩
    exact expressible_of_parse h
  · intro h
    exact ⟨e.render, parse_of_spells h (.refl _)⟩
  · intro h raw hraw
    exact parse_of_spells h hraw
  · intro h
    exact expressible_of_parse (h e.render (.refl _))

/-- An empty group, and a negated match on a name with a letter of two bytes. -/
def negatedName : Expression :=
  [[], [{ key := "SrcK8S_Name", values := "\u00E9,\"a\"", negated := true }]]

/-- The expression is read from its text with the sign, the letter and a quote written as escapes.
-/
theorem expressible_iff_negatedName :
    Percent.Spells "|SrcK8S_Name%21=%c3%A9,\"a%22".toList negatedName.render.toList ∧
      Expression.parse "|SrcK8S_Name%21=%c3%A9,\"a%22" = .ok negatedName := by
  have hraw : "|SrcK8S_Name%21=%c3%A9,\"a%22".toList =
      "|SrcK8S_Name".toList ++ ("%21".toList ++ '=' :: ("%c3%A9".toList ++
        (",\"a".toList ++ ("%22".toList ++ [])))) := by
    decide +kernel
  have htext : negatedName.render.toList =
      "|SrcK8S_Name".toList ++ '!' :: '=' :: '\u00E9' :: (",\"a".toList ++ ['"']) := by
    decide +kernel
  have hsign : Percent.Escapes "%21".toList (String.utf8EncodeChar '!') :=
    .byte (by decide +kernel) (by decide +kernel) .nil
  have hletter : Percent.Escapes "%c3%A9".toList (String.utf8EncodeChar '\u00E9') :=
    .byte (b := 0xC3) (by decide +kernel) (by decide +kernel)
      (.byte (b := 0xA9) (by decide +kernel) (by decide +kernel) .nil)
  have hquote : Percent.Escapes "%22".toList (String.utf8EncodeChar '"') :=
    .byte (by decide +kernel) (by decide +kernel) .nil
  have hspells : Percent.Spells "|SrcK8S_Name%21=%c3%A9,\"a%22".toList
      negatedName.render.toList := by
    rw [hraw, htext]
    exact .append (.refl _) (.escaped _ hsign (.plain _ (.escaped _ hletter
      (.append (.refl _) (.escaped _ hquote .nil)))))
  have hexpressible : negatedName.Expressible := by
    refine ⟨by decide, ?_⟩
    rw [negatedName, List.forall_mem_cons, List.forall_mem_singleton, List.forall_mem_singleton]
    exact ⟨List.forall_mem_nil _, ⟨⟨by decide +kernel, by decide +kernel⟩, by decide⟩⟩
  exact ⟨hspells, (expressible_iff negatedName).2.mp hexpressible _ hspells⟩

end FlowConsole.Filter
