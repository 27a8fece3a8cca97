import FlowConsole.LogQL.Recover
import FlowConsole.Proofs.Filter.Admitted
import FlowConsole.Proofs.LogQL.Scanning

/-!
# The characters of patterns

What atoms become in a query: patterns of regular expressions, and names and values recovered from
them. None of it brings in a backtick or the end of a line, and names and numbers bring in no quote
either.
-/

open FlowConsole.Text (Consists)

namespace FlowConsole.LogQL

open Token (isBareChar isCodeChar isLiteralChar)

/-! ### Kinds of characters -/

/-- A character of a number. -/
def isNumberChar (c : Char) : Bool := Text.isAnyDigit c || c == '-' || c == '.'

private theorem ne_of_kind {p : Char → Bool} {c d : Char} (hc : p c = true) (hd : p d = false) :
    c ≠ d := by
  rintro rfl
  rw [hc] at hd
  cases hd

private theorem codeChar_of_kind {p : Char → Bool} (hq : p '"' = false) (hb : p '`' = false)
    {c : Char} (h : p c = true) : isCodeChar c = true := by
  rw [isCodeChar, Bool.and_eq_true, bne_iff_ne, bne_iff_ne]
  exact ⟨ne_of_kind h hq, ne_of_kind h hb⟩

private theorem literalChar_of_kind {p : Char → Bool} (hb : p '`' = false) (hn : p '\n' = false)
    {c : Char} (h : p c = true) : isLiteralChar c = true := by
  rw [isLiteralChar, Bool.and_eq_true, bne_iff_ne, bne_iff_ne]
  exact ⟨ne_of_kind h hb, ne_of_kind h hn⟩

/-- A character of a name is one of code. -/
theorem isCodeChar_of_isNameChar {c : Char} (h : Recovered.isNameChar c = true) :
    isCodeChar c = true :=
  codeChar_of_kind (by simp [Recovered.isNameChar, Text.isAsciiWord])
    (by simp [Recovered.isNameChar, Text.isAsciiWord]) h

/-- A character of a name can stand in literals. -/
theorem isLiteralChar_of_isNameChar {c : Char} (h : Recovered.isNameChar c = true) :
    isLiteralChar c = true :=
  literalChar_of_kind (by simp [Recovered.isNameChar, Text.isAsciiWord])
    (by simp [Recovered.isNameChar, Text.isAsciiWord]) h

/-- A character of a number is one of code. -/
theorem isCodeChar_of_isNumberChar {c : Char} (h : isNumberChar c = true) : isCodeChar c = true :=
  codeChar_of_kind (by simp [isNumberChar]) (by simp [isNumberChar]) h

/-- A character of a value can stand in literals without an escape, unless it is a quote. -/
theorem isBareChar_of_isValueChar {c : Char} (h : Filter.isValueChar c = true) :
    isBareChar c = true := by
  rw [isBareChar, Bool.and_eq_true, bne_iff_ne]
  have htick : Filter.isValueChar '`' = false := by simp [Filter.isValueChar, Text.isAsciiWord]
  have hline : Filter.isValueChar '\n' = false := by simp [Filter.isValueChar, Text.isAsciiWord]
  have hback : Filter.isValueChar '\\' = false := by simp [Filter.isValueChar, Text.isAsciiWord]
  exact ⟨literalChar_of_kind htick hline h, ne_of_kind h hback⟩

/-- A character that needs no escape can stand in literals. -/
theorem isLiteralChar_of_isBareChar {c : Char} (h : isBareChar c = true) :
    isLiteralChar c = true :=
  (Bool.and_eq_true_iff.mp h).1

/-- A character of a key is one of a name. -/
theorem isNameChar_of_isKeyRest {c : Char} (h : Filter.isKeyRest c = true) :
    Recovered.isNameChar c = true := by
  rw [Recovered.isNameChar, Bool.or_eq_true]
  exact .inl h

/-! ### Atoms -/

section

variable {p : Char → Bool} {atom inner : String}

/-- The text between the quotes of an atom is part of it. -/
theorem consists_of_unquoted? (h : Consists p atom) (hi : Atom.unquoted? atom = some inner) :
    Consists p inner := by
  obtain ⟨cs, hcs, rfl⟩ := Option.map_eq_some_iff.mp hi
  rw [Text.consists_ofList]
  intro c hc
  unfold Atom.inner? at hcs
  split at hcs
  · next ds hds =>
    split_ifs at hcs
    cases hcs
    apply h
    rw [hds]
    exact List.mem_cons_of_mem _ (List.dropLast_subset _ hc)
  · cases hcs

/-- An atom without its quotes is part of the atom. -/
theorem consists_unquoted (h : Consists p atom) : Consists p (Atom.unquoted atom) := by
  rw [Atom.unquoted]
  cases hi : Atom.unquoted? atom with
  | none => exact h
  | some inner => exact consists_of_unquoted? h hi

end

/-- A word character is its own pattern. -/
theorem Atom.charPattern_of_isWord {c : Char} (h : Text.isWord c = true) : charPattern c = [c] := by
  rw [charPattern, if_neg, if_neg]
  · intro hmeta
    simp only [isMeta, Bool.or_eq_true, beq_iff_eq, or_assoc] at hmeta
    rcases hmeta with
      rfl | rfl | rfl | rfl | rfl | rfl | rfl | rfl | rfl | rfl | rfl | rfl | rfl <;>
      simp [Text.isAsciiWord] at h
  · rintro rfl
    simp [Text.isAsciiWord] at h

/-- A digit is its own pattern. -/
theorem Atom.charPattern_of_isDigit {c : Char} (h : c.isDigit = true) : charPattern c = [c] := by
  refine charPattern_of_isWord (Text.isWord_of_isAsciiWord ?_)
  rw [Text.isAsciiWord, Char.isAlphanum, h, Bool.or_true, Bool.true_or]

/-- The pattern of an atom can stand in literals if the atom can. -/
theorem literal_pattern {atom : String} (h : Consists isLiteralChar atom) :
    Consists isLiteralChar (Atom.pattern atom) := by
  rw [Atom.pattern, Text.consists_ofList]
  intro c hc
  obtain ⟨d, hd, hc⟩ := List.mem_flatMap.mp hc
  rw [Atom.charPattern] at hc
  split_ifs at hc
  · rw [List.mem_cons, List.mem_singleton] at hc
    rcases hc with rfl | rfl <;> rfl
  · rw [List.mem_cons, List.mem_singleton] at hc
    rcases hc with rfl | rfl
    · rfl
    · exact h _ hd
  · rw [List.mem_singleton] at hc
    exact hc ▸ h d hd

/-- The alternative of an atom can stand in literals if the atom can. -/
theorem literal_alternative {atom : String} (h : Consists isLiteralChar atom) :
    Consists isLiteralChar (LabelFilter.alternative atom) := by
  rw [LabelFilter.alternative]
  split
  · next inner hi =>
    have hp := literal_pattern (consists_of_unquoted? h hi)
    rw [Text.consists_append, Text.consists_append]
    refine ⟨⟨?_, hp⟩, ?_⟩ <;> split <;> decide
  · rw [Text.consists_append, Text.consists_append]
    exact ⟨⟨by decide, literal_pattern h⟩, by decide⟩

section

variable {p : Char → Bool} (hdigit : ∀ c, c.isDigit = true → p c = true)

include hdigit

private theorem forall_of_isDigits {cs : List Char} (h : Atom.isDigits cs = true) :
    ∀ c ∈ cs, p c = true := by
  rw [Atom.isDigits, Bool.and_eq_true] at h
  exact fun c hc => hdigit c (List.all_eq_true.mp h.2 c hc)

private theorem forall_of_unsigned {cs : List Char} (hpoint : p '.' = true)
    (h : (match Text.cut? '.' cs with
      | none => Atom.isDigits cs
      | some (whole, fraction) => Atom.isDigits whole && Atom.isDigits fraction) = true) :
    ∀ c ∈ cs, p c = true := by
  split at h
  · exact forall_of_isDigits hdigit h
  · next whole fraction hcut =>
    rw [Bool.and_eq_true] at h
    rw [Text.eq_of_cut? hcut]
    intro c hc
    rw [List.mem_append, List.mem_cons] at hc
    rcases hc with hc | rfl | hc
    · exact forall_of_isDigits hdigit h.1 c hc
    · exact hpoint
    · exact forall_of_isDigits hdigit h.2 c hc

/-- A number is made of digits, a sign and a point. -/
theorem consists_of_isNumber (hpoint : p '.' = true) (hsign : p '-' = true) {value : String}
    (h : Atom.isNumber value = true) : Consists p value := by
  have hall := forall_of_unsigned hdigit hpoint h
  intro c hc
  split at hall
  · next cs hcs =>
    rw [hcs] at hc
    rcases List.mem_cons.mp hc with rfl | hc
    · exact hsign
    · exact hall c hc
  · exact hall c hc

end

/-- A number is made of the characters of numbers. -/
theorem number_of_isNumber {value : String} (h : Atom.isNumber value = true) :
    Consists isNumberChar value := by
  apply consists_of_isNumber _ rfl rfl h
  intro c hc
  rw [isNumberChar, Text.isAnyDigit_of_isDigit hc]
  rfl

/-! ### Lower bounds -/

/-- A character that the pattern of a lower bound brings in. -/
def isBoundChar (c : Char) : Bool := c.isDigit || "()[]\x7b\x7d|-,".toList.contains c

section

open AtLeast

variable {p : Char → Bool} (hp : ∀ c, isBoundChar c = true → p c = true)

include hp

private theorem all_of_bound {cs : List Char} (h : cs.all isBoundChar = true) : cs.all p = true :=
  List.all_eq_true.mpr fun c hc => hp c (List.all_eq_true.mp h c hc)

private theorem all_toDigits (n : Nat) : (Nat.toDigits 10 n).all p = true := by
  refine List.all_eq_true.mpr fun c hc => hp c ?_
  rw [isBoundChar, Nat.isDigit_of_mem_toDigits (by decide) (by decide) hc, Bool.true_or]

private theorem all_counted (n : Nat) {cs ds : List Char} (hc : cs.all isBoundChar = true)
    (hd : ds.all isBoundChar = true) : (cs ++ Nat.toDigits 10 n ++ ds).all p = true := by
  rw [List.all_append, List.all_append, all_of_bound hp hc, all_of_bound hp hd, all_toDigits hp]
  rfl

private theorem all_branch {before after bs : List Char} {d : Char} (hb : before.all p = true)
    (h : branch? before d after = some bs) : bs.all p = true := by
  have hdigit : ∀ low, (digitPattern low).all p = true := by
    intro low
    rw [digitPattern]
    split
    · exact all_of_bound hp (by decide)
    · exact all_counted hp low (by decide : ['['].all isBoundChar = true) (by decide)
  have htail : ∀ isFirst count, (tailPattern isFirst count).all p = true := by
    intro isFirst count
    rw [tailPattern]
    split_ifs
    · rfl
    · exact all_of_bound hp (by decide +kernel)
    · exact all_counted hp count (by decide +kernel) (by decide +kernel)
    · exact all_counted hp count (by decide +kernel) (by decide +kernel)
  rw [branch?] at h
  generalize (if after.isEmpty = true then d.toNat - '0'.toNat else d.toNat - '0'.toNat + 1) = low
    at h
  split_ifs at h
  cases h
  rw [List.all_append, List.all_append, hb, hdigit, htail]
  rfl

private theorem all_branches {before after : List Char} (hb : before.all p = true)
    (ha : after.all p = true) : ∀ bs ∈ branches before after, bs.all p = true := by
  induction after generalizing before with
  | nil => exact fun bs h => absurd h List.not_mem_nil
  | cons d after ih =>
    rw [List.all_cons, Bool.and_eq_true] at ha
    have hd : (before ++ [d]).all p = true := by
      rw [List.all_append, hb, List.all_cons, ha.1]
      rfl
    intro bs h
    rw [branches, List.mem_append] at h
    rcases h with h | h
    · exact ih hd ha.2 bs h
    · exact all_branch hp hb (Option.mem_toList.mp h)

/-- The pattern of a lower bound is made of the characters of the bound and of its own. -/
theorem all_patternOf {cs : List Char} (h : ∀ c ∈ cs, p c = true) :
    ∀ c ∈ patternOf cs, p c = true := by
  have hs : (significant cs).all p = true := by
    rw [significant]
    split
    · exact all_of_bound hp (by decide)
    · exact List.all_eq_true.mpr fun c hc => h c ((List.dropWhile_sublist _).subset hc)
  have hl : ∀ n, (longerBranch n).all p = true := by
    intro n
    exact all_counted hp n (by decide +kernel) (by decide +kernel)
  have hj : ∀ c ∈ Text.joinPieces '|' (branches [] (significant cs) ++
      [longerBranch (significant cs).length]), p c = true := by
    apply Text.forall_mem_joinPieces (hp '|' (by decide))
    intro bs hbs
    rw [List.mem_append, List.mem_singleton] at hbs
    rcases hbs with hbs | rfl
    · exact List.all_eq_true.mp (all_branches hp rfl hs bs hbs)
    · exact List.all_eq_true.mp (hl _)
  intro c hc
  rw [patternOf] at hc
  rw [List.cons_append, List.mem_cons, List.mem_append, List.mem_singleton] at hc
  rcases hc with rfl | hc | rfl
  · exact hp '(' (by decide)
  · exact hj c hc
  · exact hp ')' (by decide)

end

/-- The pattern of a lower bound can stand in literals if the bound can. -/
theorem literal_patternOf {cs : List Char} (h : ∀ c ∈ cs, isLiteralChar c = true) :
    ∀ c ∈ AtLeast.patternOf cs, isLiteralChar c = true :=
  all_patternOf (fun _ hc => literalChar_of_kind (by decide) (by decide) hc) h

end FlowConsole.LogQL
