import FlowConsole.Proofs.Regex.Reading
import FlowConsole.Proofs.Text.Digits

/-!
# Expressions of brackets, braces and groups

What is made of characters between brackets, of a number of repetitions between braces and of
alternatives between parentheses. Expressions without signs of the start or the end match texts
wherever these stand, so their characters denote the texts (`Denotes`): characters in order denote
texts in order, and a group those of any of its alternatives.
-/

namespace FlowConsole.Regex

namespace Reader

/-! ### Brackets and braces -/

private theorem run_inBracket {cs read : List Char} {s : Reader} (hmode : s.mode = .bracket read)
    (hend : ']' ∉ cs) (hne : read ++ cs ≠ []) (hcaret : read ++ cs ≠ ['^']) :
    s.run (cs ++ [']']) = some (s.pushSet (bracketSet (read ++ cs))) := by
  induction cs generalizing read s with
  | nil =>
    rw [List.append_nil] at hne hcaret ⊢
    rw [List.nil_append, run_cons, step, hmode]
    simp only [if_pos (And.intro trivial (And.intro hne hcaret))]
    rfl
  | cons c cs ih =>
    rw [List.mem_cons, not_or] at hend
    have hstep : s.step c = some { s with mode := .bracket (read ++ [c]) } := by
      rw [step, hmode]
      exact if_neg fun h => hend.1 h.1.symm
    rw [List.append_cons read] at hne hcaret ⊢
    rw [List.cons_append, run_cons, hstep, Option.bind_some, ih rfl hend.2 hne hcaret]
    rfl

/-- Characters between brackets add a set. -/
theorem run_brackets {cs : List Char} {s : Reader} (hmode : s.mode = .plain) (hend : ']' ∉ cs)
    (hne : cs ≠ []) (hcaret : cs ≠ ['^']) :
    s.run ('[' :: cs ++ [']']) = some (s.pushSet (bracketSet cs)) := by
  have hopen : s.step '[' = some { s with mode := .bracket [] } := by
    rw [step, hmode]
    rfl
  have hbracket := run_inBracket (s := { s with mode := .bracket [] }) rfl hend hne hcaret
  rw [List.cons_append, run_cons, hopen, Option.bind_some, hbracket]
  rfl

private theorem run_inBrace {cs read : List Char} {s : Reader} (hmode : s.mode = .brace read)
    (hend : '\x7d' ∉ cs) :
    s.run (cs ++ ['\x7d']) =
      (braceBounds? (read ++ cs)).bind fun b => s.repeatLast b.1 b.2 := by
  induction cs generalizing read s with
  | nil =>
    rw [List.append_nil, List.nil_append, run_cons, step, hmode]
    simp only [if_true]
    exact Option.bind_fun_some _
  | cons c cs ih =>
    rw [List.mem_cons, not_or] at hend
    have hstep : s.step c = some { s with mode := .brace (read ++ [c]) } := by
      rw [step, hmode]
      exact if_neg (Ne.symm hend.1)
    rw [List.cons_append, run_cons, hstep, Option.bind_some, ih rfl hend.2, List.append_assoc]
    rfl

/-- A number of times between braces repeats the part before. -/
theorem run_braces {cs : List Char} {s : Reader} (hmode : s.mode = .plain) (hend : '\x7d' ∉ cs) :
    s.run ('\x7b' :: cs ++ ['\x7d']) =
      (braceBounds? cs).bind fun b => s.repeatLast b.1 b.2 := by
  have hopen : s.step '\x7b' = some { s with mode := .brace [] } := by
    rw [step, hmode]
    rfl
  rw [List.cons_append, run_cons, hopen, Option.bind_some, run_inBrace rfl hend]
  rfl

/-- Characters between brackets add their set as a part. -/
theorem adds_brackets (ignoreCase : Bool) {cs : List Char} (hend : ']' ∉ cs) (hne : cs ≠ [])
    (hcaret : cs ≠ ['^']) :
    Adds ignoreCase ('[' :: cs ++ [']']) [.one ignoreCase (bracketSet cs)] := by
  intro s hmode hcase
  refine ⟨true, ?_⟩
  rw [run_brackets hmode hend hne hcaret, pushSet, push, hcase, ← hmode]
  rfl

/-- Characters between brackets add their set as often as is said between braces. -/
theorem adds_repeated (ignoreCase : Bool) {cs ds : List Char} {bounds : Nat × Option Nat}
    (hend : ']' ∉ cs) (hne : cs ≠ []) (hcaret : cs ≠ ['^']) (hbrace : '\x7d' ∉ ds)
    (hbounds : braceBounds? ds = some bounds) :
    Adds ignoreCase (('[' :: cs ++ [']']) ++ ('\x7b' :: ds ++ ['\x7d']))
      [.repeated (.one ignoreCase (bracketSet cs)) bounds.1 bounds.2] := by
  intro s hmode hcase
  refine ⟨false, ?_⟩
  rw [run_of_append (run_brackets hmode hend hne hcaret), run_braces rfl hbrace, hbounds,
    Option.bind_some, repeatLast, pushSet, push, hcase, ← hmode]
  rfl

/-- Characters between brackets with a star add any number of characters of their set. -/
theorem adds_brackets_star (ignoreCase : Bool) {cs : List Char} (hend : ']' ∉ cs) (hne : cs ≠ [])
    (hcaret : cs ≠ ['^']) :
    Adds ignoreCase (('[' :: cs ++ [']']) ++ ['*'])
      [.repeated (.one ignoreCase (bracketSet cs)) 0 none] := by
  intro s hmode hcase
  have hstar : (s.pushSet (bracketSet cs)).step '*' =
      (s.pushSet (bracketSet cs)).repeatLast 0 none := rfl
  refine ⟨false, ?_⟩
  rw [run_of_append (run_brackets hmode hend hne hcaret), run_cons, hstar, repeatLast, pushSet,
    push, hcase, ← hmode]
  rfl

/-! ### Alternatives and groups -/

/-- Where case is ignored or not, the characters add parts to the current alternative, and leave
case ignored or not. -/
def Extends (before : Bool) (cs : List Char) (rs : List Regex) (after : Bool) : Prop :=
  ∀ s : Reader, s.mode = .plain → s.group.ignoreCase = before →
    ∃ repeatable, s.run cs = some
      { s with
        group := { s.group with ignoreCase := after, parts := rs.reverse ++ s.group.parts }
        repeatable }

/-- Characters without a flag leave case as it is. -/
theorem Adds.extends {ignoreCase : Bool} {cs : List Char} {rs : List Regex}
    (h : Adds ignoreCase cs rs) : Extends ignoreCase cs rs ignoreCase := by
  intro s hmode hcase
  obtain ⟨repeatable, hrun⟩ := h s hmode hcase
  refine ⟨repeatable, ?_⟩
  rw [hrun, adding, ← hcase]

/-- Characters after others go on from what the others leave. -/
theorem Extends.append {first second third : Bool} {cs ds : List Char} {rs ss : List Regex}
    (h : Extends first cs rs second) (h' : Extends second ds ss third) :
    Extends first (cs ++ ds) (rs ++ ss) third := by
  intro s hmode hcase
  obtain ⟨earlier, hfirst⟩ := h s hmode hcase
  obtain ⟨later, hsecond⟩ := h'
    { s with
      group := { s.group with ignoreCase := second, parts := rs.reverse ++ s.group.parts }
      repeatable := earlier } hmode rfl
  refine ⟨later, ?_⟩
  rw [run_of_append hfirst, hsecond, List.reverse_append, List.append_assoc]

/-- After the flag of case, case is ignored. -/
theorem extends_ignoreCase (ignoreCase : Bool) : Extends ignoreCase ['(', '?', 'i', ')'] [] true :=
  fun _ hmode _ => ⟨false, run_ignoreCase hmode⟩

-- No part starts with a question mark: it would repeat what is not there.
private theorem Extends.head_ne {before after : Bool} {cs : List Char} {rs : List Regex}
    (h : Extends before cs rs after) : cs.head? ≠ some '?' := by
  intro hhead
  obtain ⟨ds, rfl⟩ : ∃ ds, cs = '?' :: ds := List.head?_eq_some_iff.mp hhead
  obtain ⟨repeatable, hrun⟩ := h { group := { ignoreCase := before } } rfl rfl
  cases hrun

/-- The characters are the alternatives of a group, each of which goes on from what the one before
it leaves, and are read as the expressions. -/
inductive Alternatives : Bool → List (List Char) → List Regex → Prop
  | last {before after : Bool} {cs : List Char} {rs : List Regex}
    (h : Extends before cs rs after) : Alternatives before [cs] [sequence rs]
  | more {before after : Bool} {cs : List Char} {rs : List Regex} {css : List (List Char)}
    {bs : List Regex} (h : Extends before cs rs after) (hrest : Alternatives after css bs) :
    Alternatives before (cs :: css) (sequence rs :: bs)

namespace Alternatives

variable {ignoreCase : Bool} {css : List (List Char)} {bs : List Regex}

/-- There is at least one alternative. -/
theorem ne_nil (h : Alternatives ignoreCase css bs) : css ≠ [] ∧ bs ≠ [] := by
  cases h <;> exact ⟨List.cons_ne_nil _ _, List.cons_ne_nil _ _⟩

private theorem run_joinPieces (h : Alternatives ignoreCase css bs) {s : Reader}
    (hmode : s.mode = .plain) (hcase : s.group.ignoreCase = ignoreCase)
    (hparts : s.group.parts = []) :
    ∃ t, s.run (Text.joinPieces '|' css) = some t ∧ t.mode = .plain ∧ t.around = s.around ∧
      t.group.close = oneOf (s.group.branches ++ bs) := by
  induction h generalizing s with
  | last h =>
    obtain ⟨repeatable, hrun⟩ := h s hmode hcase
    refine ⟨_, hrun, hmode, rfl, ?_⟩
    simp only [OpenGroup.close, OpenGroup.branch, hparts, List.append_nil, List.reverse_reverse]
  | @more before after cs rs css bs h hrest ih =>
    obtain ⟨repeatable, hrun⟩ := h s hmode hcase
    rw [hparts, List.append_nil] at hrun
    obtain ⟨d, ds, hcss⟩ := List.exists_cons_of_ne_nil hrest.ne_nil.1
    have hplain : ({ s with
        group := { s.group with ignoreCase := after, parts := rs.reverse }
        repeatable } : Reader).mode = .plain := hmode
    obtain ⟨t, ht, htmode, haround, hclose⟩ :=
      ih (s := Reader.nextBranch { s with
        group := { s.group with ignoreCase := after, parts := rs.reverse }
        repeatable }) hmode rfl rfl
    refine ⟨t, ?_, htmode, haround, ?_⟩
    · rw [hcss] at ht ⊢
      rw [Text.joinPieces, run_of_append hrun, run_cons, step_bar hplain, Option.bind_some, ht]
    · rw [hclose]
      simp only [nextBranch, OpenGroup.branch, List.reverse_reverse, List.append_assoc,
        List.singleton_append]

-- What comes after a parenthesis is read as the start of a group, unless it is a question mark.
private theorem run_opened {cs : List Char} (hne : cs ≠ []) (hhead : cs.head? ≠ some '?')
    (s : Reader) : ({ s with mode := .opened } : Reader).run cs = s.openGroup.run cs := by
  cases cs with
  | nil => exact absurd rfl hne
  | cons c cs =>
    have hstep : ({ s with mode := .opened } : Reader).step c = s.openGroup.step c :=
      if_neg fun hc => hhead (congrArg some hc)
    rw [run_cons, run_cons, hstep]

private theorem head_joinPieces_ne (h : Alternatives ignoreCase css bs) :
    (Text.joinPieces '|' css ++ [')']).head? ≠ some '?' := by
  cases h with
  | @last _ _ cs _ h =>
    have hhead := h.head_ne
    cases cs <;> simp_all [Text.joinPieces]
  | @more _ _ cs _ css _ h hrest =>
    have hhead := h.head_ne
    obtain ⟨d, ds, rfl⟩ := List.exists_cons_of_ne_nil hrest.ne_nil.1
    cases cs <;> simp_all [Text.joinPieces]

/-- Alternatives between parentheses are one part, after which case is as before. -/
theorem adds_group (h : Alternatives ignoreCase css bs) :
    Adds ignoreCase ('(' :: Text.joinPieces '|' css ++ [')']) [oneOf bs] := by
  intro s hmode hcase
  obtain ⟨t, ht, htmode, haround, hclose⟩ := h.run_joinPieces (s := s.openGroup) rfl hcase rfl
  have hopen : s.step '(' = some { s with mode := .opened } := by
    rw [step, hmode]
    rfl
  have hclosed : t.step ')' = some (s.push t.group.close) := by
    rw [step, htmode]
    simp only [plainStep, closeGroup, haround, openGroup]
    rw [push, push]
  refine ⟨true, ?_⟩
  rw [List.cons_append, run_cons, hopen, Option.bind_some,
    run_opened (by simp) h.head_joinPieces_ne, run_of_append ht, run_cons, hclosed, hclose,
    push, ← hmode]
  rfl

/-- Alternatives that stand alone are read as one of the expressions. -/
theorem read_joinPieces (h : Alternatives false css bs) :
    read (Text.joinPieces '|' css) = some (oneOf bs) := by
  obtain ⟨t, ht, htmode, haround, hclose⟩ := h.run_joinPieces (s := {}) rfl rfl rfl
  rw [read, ht, Option.bind_some, finish, if_pos ⟨htmode, haround⟩, hclose]
  rfl

end Alternatives

end Reader

/-! ### Numbers between braces -/

private theorem sign_not_mem_toDigits {c : Char} (h : c.isDigit = false) (n : Nat) :
    c ∉ Nat.toDigits 10 n := by
  intro hc
  rw [Nat.isDigit_of_mem_toDigits (by decide) (by decide) hc] at h
  cases h

private theorem isEmpty_toDigits (n : Nat) : (Nat.toDigits 10 n).isEmpty = false :=
  List.isEmpty_eq_false_iff.mpr Nat.toDigits_ne_nil

/-- A number between braces is the number of times. -/
theorem braceBounds?_toDigits (n : Nat) : braceBounds? (Nat.toDigits 10 n) = some (n, some n) := by
  rw [braceBounds?, Text.pieces_of_not_mem (sign_not_mem_toDigits rfl n)]
  simp only [isEmpty_toDigits, Bool.false_eq_true, if_false, Text.numeral?_toDigits,
    Option.map_some]

/-- A number and a comma between braces are the least number of times. -/
theorem braceBounds?_toDigits_comma (n : Nat) :
    braceBounds? (Nat.toDigits 10 n ++ [',']) = some (n, none) := by
  rw [braceBounds?, Text.pieces_append_sep (sign_not_mem_toDigits rfl n)]
  simp only [Text.pieces, isEmpty_toDigits, Bool.false_eq_true, if_false, List.isEmpty_nil, if_true,
    Text.numeral?_toDigits, Option.map_some]

/-! ### Denoted texts -/

/-- The characters are read as parts that match the texts of a kind, wherever these stand. -/
def Denotes (cs : List Char) (p : List Char → Prop) : Prop :=
  ∃ rs, Reader.Adds false cs rs ∧
    ∀ k before text after, (sequence rs).Matches k before text after ↔ p text

section

variable {cs ds : List Char} {p q : List Char → Prop}

/-- What is denoted may be said in other words. -/
theorem Denotes.congr (h : Denotes cs p) (hpq : ∀ text, p text ↔ q text) : Denotes cs q := by
  obtain ⟨rs, hadds, hrs⟩ := h
  exact ⟨rs, hadds, fun k before text after => (hrs k before text after).trans (hpq text)⟩

/-- A part denotes what it matches. -/
theorem denotes_of_adds {r : Regex} (h : Reader.Adds false cs [r])
    (hr : ∀ k before text after, r.Matches k before text after ↔ p text) : Denotes cs p := by
  refine ⟨[r], h, fun k before text after => ?_⟩
  simp only [sequence, matches_seq, hr, matches_empty]
  constructor
  · rintro ⟨u, -, rfl, hu, rfl⟩
    rwa [List.append_nil]
  · exact fun htext => ⟨text, [], (List.append_nil text).symm, htext, rfl⟩

/-- No characters denote the empty text. -/
theorem denotes_nil : Denotes [] (· = []) :=
  ⟨[], Reader.adds_nil false, fun _ _ _ _ => Iff.rfl⟩

/-- Characters in order denote texts in order. -/
theorem Denotes.append (h : Denotes cs p) (h' : Denotes ds q) :
    Denotes (cs ++ ds) fun text => ∃ u v, text = u ++ v ∧ p u ∧ q v := by
  obtain ⟨rs, hadds, hrs⟩ := h
  obtain ⟨ss, hadds', hss⟩ := h'
  refine ⟨rs ++ ss, hadds.append hadds', fun k before text after => ?_⟩
  simp only [matches_sequence_append, hrs, hss]

/-- Characters that denote texts are alternatives which match these texts. -/
theorem exists_alternatives {alternatives : List (List Char × (List Char → Prop))}
    (hne : alternatives ≠ []) (h : ∀ a ∈ alternatives, Denotes a.1 a.2) :
    ∃ bs, Reader.Alternatives false (alternatives.map Prod.fst) bs ∧
      ∀ k before text after,
        (oneOf bs).Matches k before text after ↔ ∃ a ∈ alternatives, a.2 text := by
  have hread : ∃ bs, Reader.Alternatives false (alternatives.map Prod.fst) bs ∧
      ∀ k before text after,
        (∃ b ∈ bs, b.Matches k before text after) ↔ ∃ a ∈ alternatives, a.2 text := by
    induction alternatives with
    | nil => exact absurd rfl hne
    | cons a as ih =>
      obtain ⟨rs, hadds, hrs⟩ := h a List.mem_cons_self
      cases as with
      | nil =>
        refine ⟨[sequence rs], .last hadds.extends, fun k before text after => ?_⟩
        simp [hrs]
      | cons b as =>
        obtain ⟨bs, hbs, hmatches⟩ :=
          ih (List.cons_ne_nil b as) fun c hc => h c (List.mem_cons_of_mem a hc)
        refine ⟨sequence rs :: bs, .more hadds.extends hbs, fun k before text after => ?_⟩
        rw [List.exists_mem_cons_iff, List.exists_mem_cons_iff, hmatches, hrs]
  obtain ⟨bs, hbs, hmatches⟩ := hread
  exact ⟨bs, hbs, fun k before text after => (matches_oneOf hbs.ne_nil.2).trans
    (hmatches k before text after)⟩

/-- A group denotes what one of its alternatives denotes. -/
theorem denotes_group {alternatives : List (List Char × (List Char → Prop))}
    (hne : alternatives ≠ []) (h : ∀ a ∈ alternatives, Denotes a.1 a.2) :
    Denotes ('(' :: Text.joinPieces '|' (alternatives.map Prod.fst) ++ [')'])
      fun text => ∃ a ∈ alternatives, a.2 text := by
  obtain ⟨bs, hbs, hmatches⟩ := exists_alternatives hne h
  exact denotes_of_adds hbs.adds_group hmatches

/-- Alternatives that denote texts are found where one of these texts stands. -/
theorem exists_read_joinPieces {alternatives : List (List Char × (List Char → Prop))}
    (hne : alternatives ≠ []) (h : ∀ a ∈ alternatives, Denotes a.1 a.2) :
    ∃ r, read (Text.joinPieces '|' (alternatives.map Prod.fst)) = some r ∧
      ∀ k text, r.Finds k text ↔
        ∃ before part after, text = before ++ part ++ after ∧ ∃ a ∈ alternatives, a.2 part := by
  obtain ⟨bs, hbs, hmatches⟩ := exists_alternatives hne h
  exact ⟨oneOf bs, hbs.read_joinPieces, fun k text => by simp only [Finds, hmatches]⟩

/-- Characters are read as an expression that matches the texts that they denote. -/
theorem Denotes.exists_read (h : Denotes cs p) :
    ∃ r, read cs = some r ∧ ∀ k before text after, r.Matches k before text after ↔ p text := by
  have hone : ∀ a ∈ [(cs, p)], Denotes a.1 a.2 := List.forall_mem_singleton.mpr h
  obtain ⟨bs, hbs, hmatches⟩ := exists_alternatives (List.cons_ne_nil _ _) hone
  refine ⟨oneOf bs, hbs.read_joinPieces, fun k before text after => ?_⟩
  rw [hmatches, List.exists_mem_cons_iff]
  exact or_iff_left fun hnone => by simp at hnone

/-- Between the signs of the start and the end, characters are read as an expression that is found
in the texts that they denote. -/
theorem Denotes.exists_read_anchored (h : Denotes cs p) :
    ∃ r, read (['^'] ++ cs ++ ['$']) = some r ∧ ∀ k text, r.Finds k text ↔ p text := by
  obtain ⟨rs, hadds, hrs⟩ := h
  obtain ⟨repeatable, hrun⟩ :=
    (((Reader.adds_start false).append hadds).append (Reader.adds_stop false)) {} rfl rfl
  refine ⟨sequence ([.start] ++ rs ++ [.stop]), ?_, fun k text => ?_⟩
  · rw [read, hrun, Option.bind_some, Reader.finish, if_pos ⟨rfl, rfl⟩]
    simp [OpenGroup.close, OpenGroup.branch, Reader.adding, oneOf]
  · rw [finds_anchored, MatchesAll, hrs]

private theorem bracketRanges_of_not_mem {cs : List Char} (h : '-' ∉ cs) :
    bracketRanges cs = cs.map fun c => (c, c) := by
  induction cs with
  | nil => rfl
  | cons c cs ih =>
    rw [List.mem_cons, not_or] at h
    have hrange : ∀ high ds, cs = '-' :: high :: ds → False := by
      rintro high ds rfl
      exact h.2 List.mem_cons_self
    rw [bracketRanges.eq_2 c cs hrange, ih h.2, List.map_cons]

private theorem inRanges_map {k : CaseFolding} {c : Char} {cs : List Char} :
    InRanges k false c (cs.map fun d => (d, d)) ↔ c ∈ cs := by
  simp only [InRanges, CaseFolding.Reads, Bool.false_eq_true, if_false, List.mem_map]
  constructor
  · rintro ⟨d, rfl, -, ⟨e, he, rfl⟩, hle, hge⟩
    rwa [← Char.le_antisymm hle hge]
  · exact fun hc => ⟨c, rfl, (c, c), ⟨c, hc, rfl⟩, Char.le_refl c, Char.le_refl c⟩

/-- Characters between brackets denote any of themselves. -/
theorem denotes_brackets (hne : cs ≠ []) (h : ∀ c ∈ cs, c ≠ ']' ∧ c ≠ '^' ∧ c ≠ '-') :
    Denotes ('[' :: cs ++ [']']) fun text => ∃ c, text = [c] ∧ c ∈ cs := by
  have hcaret : ∀ ds, cs = '^' :: ds → False := by
    rintro ds rfl
    exact (h '^' List.mem_cons_self).2.1 rfl
  have hset : bracketSet cs = .ranges false (cs.map fun c => (c, c)) := by
    rw [bracketSet.eq_2 cs hcaret, bracketRanges_of_not_mem fun hmem => (h _ hmem).2.2 rfl]
  have hadds := Reader.adds_brackets false (fun hmem => (h _ hmem).1 rfl) hne
    fun hnil => hcaret [] hnil
  rw [hset] at hadds
  refine denotes_of_adds hadds fun k before text after => ?_
  simp only [matches_one, CharSet.Has, Bool.false_eq_true, if_false, inRanges_map]

private theorem bracketSet_range {low high : Char} (h : low ≠ '^') :
    bracketSet [low, '-', high] = .ranges false [(low, high)] := by
  rw [bracketSet.eq_def]
  split
  · next hcs => exact absurd (List.cons.inj hcs).1 h
  · rfl

private theorem has_range {k : CaseFolding} {low high c : Char} :
    (CharSet.ranges false [(low, high)]).Has k false c ↔ low ≤ c ∧ c ≤ high := by
  simp [CharSet.Has, InRanges, CaseFolding.Reads]

/-- A range between brackets denotes its characters. -/
theorem denotes_range {low high : Char} (hlow : low ≠ ']' ∧ low ≠ '^') (hhigh : high ≠ ']') :
    Denotes ['[', low, '-', high, ']'] fun text => ∃ c, text = [c] ∧ low ≤ c ∧ c ≤ high := by
  have hend : ']' ∉ [low, '-', high] := by simp [hlow.1.symm, hhigh.symm]
  have hadds := Reader.adds_brackets false hend (by simp) (by simp)
  rw [bracketSet_range hlow.2] at hadds
  refine denotes_of_adds hadds fun k before text after => ?_
  simp only [matches_one, has_range]

/-- A range with a number of times denotes the texts of its characters of such a length. -/
theorem denotes_range_repeated {low high : Char} {bounds : Nat × Option Nat}
    (hlow : low ≠ ']' ∧ low ≠ '^') (hhigh : high ≠ ']') (hbrace : '\x7d' ∉ ds)
    (hbounds : braceBounds? ds = some bounds) :
    Denotes (['[', low, '-', high, ']'] ++ ('\x7b' :: ds ++ ['\x7d'])) fun text =>
      (∀ c ∈ text, low ≤ c ∧ c ≤ high) ∧ bounds.1 ≤ text.length ∧
        ∀ most ∈ bounds.2, text.length ≤ most := by
  have hend : ']' ∉ [low, '-', high] := by simp [hlow.1.symm, hhigh.symm]
  have hadds := Reader.adds_repeated false hend (by simp) (by simp) hbrace hbounds
  rw [bracketSet_range hlow.2] at hadds
  refine denotes_of_adds hadds fun k before text after => ?_
  simp only [matches_repeated, times_one, has_range]
  constructor
  · rintro ⟨n, hleast, hmost, rfl, hall⟩
    exact ⟨hall, hleast, hmost⟩
  · rintro ⟨hall, hleast, hmost⟩
    exact ⟨text.length, hleast, hmost, rfl, hall⟩

end

end FlowConsole.Regex
