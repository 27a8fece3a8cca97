import FlowConsole.Text.Character
import FlowConsole.Text.Split

/-!
# Texts of characters of a kind

A text consists of characters of a kind if all its characters are of it. Cutting and joining keep
to the kind. A text without blanks is what is left of it between blanks.
-/

namespace FlowConsole.Text

/-- All characters of the text satisfy `p`. -/
def Consists (p : Char → Bool) (s : String) : Prop := ∀ c ∈ s.toList, p c = true

instance (p : Char → Bool) (s : String) : Decidable (Consists p s) :=
  decidable_of_iff (s.toList.all p = true) List.all_eq_true

section

variable {p q : Char → Bool}

/-- A text consists of its characters. -/
@[simp] theorem consists_ofList {cs : List Char} :
    Consists p (String.ofList cs) ↔ ∀ c ∈ cs, p c = true := by
  rw [Consists, String.toList_ofList]

/-- Two texts in order consist of what both consist of. -/
@[simp] theorem consists_append {s t : String} :
    Consists p (s ++ t) ↔ Consists p s ∧ Consists p t := by
  simp only [Consists, String.toList_append, List.mem_append, or_imp, forall_and]

/-- A text of characters of one kind is one of characters of any wider kind. -/
theorem Consists.mono {s : String} (h : Consists p s) (hpq : ∀ c, p c = true → q c = true) :
    Consists q s :=
  fun c hc => hpq c (h c hc)

/-- Joined texts are of the kind of the texts and of what stands between them. -/
theorem consists_join {sep : String} {ss : List String} (hsep : Consists p sep)
    (h : ∀ s ∈ ss, Consists p s) : Consists p (join sep ss) := by
  induction ss with
  | nil => exact fun c hc => absurd hc List.not_mem_nil
  | cons s rest ih =>
    cases rest with
    | nil => exact h s List.mem_cons_self
    | cons t rest =>
      rw [join, consists_append, consists_append]
      exact ⟨⟨h s List.mem_cons_self, hsep⟩, ih fun u hu => h u (List.mem_cons_of_mem _ hu)⟩

/-- The characters of joined pieces are those of the pieces and the separator. -/
theorem forall_mem_joinPieces {sep : Char} {ps : List (List Char)} (hsep : p sep = true)
    (h : ∀ cs ∈ ps, ∀ c ∈ cs, p c = true) : ∀ c ∈ joinPieces sep ps, p c = true := by
  induction ps with
  | nil => exact fun c hc => absurd hc List.not_mem_nil
  | cons cs rest ih =>
    cases rest with
    | nil => exact h cs List.mem_cons_self
    | cons ds rest =>
      have hrest := ih fun es hes => h es (List.mem_cons_of_mem _ hes)
      intro c hc
      rw [joinPieces, List.mem_append, List.mem_cons] at hc
      rcases hc with hc | rfl | hc
      · exact h cs List.mem_cons_self c hc
      · exact hsep
      · exact hrest c hc

end

/-- The characters of a piece are characters of the text. -/
theorem mem_of_mem_pieces {sep c : Char} {cs piece : List Char} (hp : piece ∈ pieces sep cs)
    (hc : c ∈ piece) : c ∈ cs := by
  induction cs generalizing piece with
  | nil =>
    rw [pieces, List.mem_singleton] at hp
    rw [hp] at hc
    exact hc
  | cons d ds ih =>
    rw [pieces] at hp
    split at hp
    · rcases List.mem_cons.mp hp with rfl | hp
      · exact absurd hc List.not_mem_nil
      · exact List.mem_cons_of_mem _ (ih hp hc)
    · cases hq : pieces sep ds with
      | nil => exact absurd hq (pieces_ne_nil sep ds)
      | cons q qs =>
        rw [hq] at hp ih
        rw [List.modifyHead_cons] at hp
        rcases List.mem_cons.mp hp with rfl | hp
        · rcases List.mem_cons.mp hc with rfl | hc
          · exact List.mem_cons_self
          · exact List.mem_cons_of_mem _ (ih List.mem_cons_self hc)
        · exact List.mem_cons_of_mem _ (ih (List.mem_cons_of_mem _ hp) hc)

/-- A character other than the separator is one of joined pieces if it is one of some piece. -/
theorem mem_joinPieces {sep c : Char} (hc : c ≠ sep) {ps : List (List Char)} :
    c ∈ joinPieces sep ps ↔ ∃ p ∈ ps, c ∈ p := by
  induction ps with
  | nil => simp [joinPieces]
  | cons p ps ih =>
    cases ps with
    | nil => simp [joinPieces]
    | cons q ps =>
      have hrest : (∃ r ∈ p :: q :: ps, c ∈ r) ↔ c ∈ p ∨ ∃ r ∈ q :: ps, c ∈ r := by simp
      rw [joinPieces, List.mem_append, List.mem_cons, ih, hrest]
      exact or_congr_right (or_iff_right hc)

/-- Joined texts are the first one and the others, each after the separator. -/
theorem join_cons (sep s : String) (ts : List String) :
    join sep (s :: ts) = s ++ String.join (ts.map (sep ++ ·)) := by
  induction ts generalizing s with
  | nil => simp [join]
  | cons t ts ih =>
    rw [join, ih, List.map_cons, String.join_cons, String.append_assoc, String.append_assoc]

/-- A character that the separator does not hold is one of joined texts if it is one of some of
them. -/
theorem mem_join {sep : String} {c : Char} (hc : c ∉ sep.toList) {ss : List String} :
    c ∈ (join sep ss).toList ↔ ∃ s ∈ ss, c ∈ s.toList := by
  induction ss with
  | nil => simp [join]
  | cons s ss ih =>
    cases ss with
    | nil => simp [join]
    | cons t ss =>
      rw [join, String.toList_append, String.toList_append, List.mem_append, List.mem_append, ih,
        or_iff_left hc]
      simp

/-- A character other than the separator is one of a text if it is one of some piece of it. -/
theorem exists_mem_pieces {sep c : Char} (hc : c ≠ sep) {cs : List Char} :
    (∃ p ∈ pieces sep cs, c ∈ p) ↔ c ∈ cs := by
  rw [← mem_joinPieces hc, joinPieces_pieces]

/-- The pieces of a text are of its kind. -/
theorem Consists.of_mem_split {p : Char → Bool} {sep : Char} {s piece : String}
    (h : Consists p s) (hp : piece ∈ split sep s) : Consists p piece := by
  obtain ⟨cs, hcs, rfl⟩ := List.mem_map.mp hp
  exact consists_ofList.mpr fun c hc => h c (mem_of_mem_pieces hcs hc)

/-- A text that was cut is made of the two parts and the separator. -/
theorem eq_of_cut? {sep : Char} {cs before after : List Char}
    (h : cut? sep cs = some (before, after)) : cs = before ++ sep :: after := by
  induction cs generalizing before with
  | nil => cases h
  | cons c cs ih =>
    rw [cut?] at h
    split at h
    · next hc =>
      cases h
      rw [hc, List.nil_append]
    · obtain ⟨⟨b, a⟩, hb, he⟩ := Option.map_eq_some_iff.mp h
      cases he
      rw [ih hb, List.cons_append]

/-- A text is not cut just if it holds no separator. -/
theorem cut?_eq_none {sep : Char} {cs : List Char} : cut? sep cs = none ↔ sep ∉ cs := by
  constructor
  · intro h hmem
    obtain ⟨before, after, rfl, hnot⟩ := List.eq_append_cons_of_mem hmem
    rw [cut?_append hnot] at h
    cases h
  · intro h
    cases hcut : cut? sep cs with
    | none => rfl
    | some p =>
      rw [eq_of_cut? hcut] at h
      exact absurd (List.mem_append_right _ List.mem_cons_self) h

/-- A text is cut into the part before its first separator and the part after it. -/
theorem cut?_eq_some {sep : Char} {cs before after : List Char} :
    cut? sep cs = some (before, after) ↔ cs = before ++ sep :: after ∧ sep ∉ before := by
  constructor
  · intro h
    have hcs := eq_of_cut? h
    have hmem : sep ∈ cs := by
      rw [hcs]
      exact List.mem_append_right _ List.mem_cons_self
    obtain ⟨b, a, rfl, hnot⟩ := List.eq_append_cons_of_mem hmem
    rw [cut?_append hnot] at h
    cases h
    exact ⟨rfl, hnot⟩
  · rintro ⟨rfl, h⟩
    exact cut?_append h after

/-- The pieces of a text are those that hold no separator and are the text when joined. -/
theorem pieces_eq_iff {sep : Char} {cs : List Char} {ps : List (List Char)} :
    pieces sep cs = ps ↔ ps ≠ [] ∧ (∀ p ∈ ps, sep ∉ p) ∧ joinPieces sep ps = cs := by
  constructor
  · rintro rfl
    exact ⟨pieces_ne_nil sep cs, fun p hp => sep_not_mem_of_mem_pieces hp, joinPieces_pieces sep cs⟩
  · rintro ⟨hne, hfree, rfl⟩
    exact pieces_joinPieces hne hfree

/-- A text is cut where its first part is, if what comes after that part holds no separator. -/
theorem cut?_append_of_not_mem {sep : Char} {ds : List Char} (h : sep ∉ ds) (cs : List Char) :
    cut? sep (cs ++ ds) = (cut? sep cs).map fun p => (p.1, p.2 ++ ds) := by
  induction cs with
  | nil =>
    cases hcut : cut? sep ds with
    | none => rw [List.nil_append, hcut]; rfl
    | some p =>
      rw [eq_of_cut? hcut] at h
      exact absurd (List.mem_append_right _ List.mem_cons_self) h
  | cons c cs ih =>
    rw [List.cons_append, cut?, cut?, ih]
    split
    · rfl
    · rw [Option.map_map, Option.map_map]
      rfl

/-- A part of a text is no longer than the text. -/
theorem length_le_of_occursIn {pattern cs : List Char}
    (h : occursIn pattern cs = true) : pattern.length ≤ cs.length := by
  induction cs with
  | nil =>
    rw [occursIn, List.isEmpty_iff] at h
    exact Nat.le_of_eq (congrArg List.length h)
  | cons c cs ih =>
    rw [occursIn, Bool.or_eq_true, List.isPrefixOf_iff_prefix] at h
    rcases h with h | h
    · exact h.length_le
    · exact Nat.le_succ_of_le (ih h)

/-! ### Blanks -/

/-- A digit is no blank. -/
theorem isBlank_of_isDigit {c : Char} (h : c.isDigit = true) : isBlank c = false := by
  have hranges : ∀ r ∈ blankRanges, r.2 < '0'.toNat ∨ '9'.toNat < r.1 := by decide
  obtain ⟨hlow, hhigh⟩ := Char.isDigit_iff_toNat.mp h
  rw [← Bool.not_eq_true, isBlank, inRanges_eq_true_iff]
  rintro ⟨r, hr, hfrom, hto⟩
  rcases hranges r hr with h | h
  · exact absurd (Nat.le_trans hlow hto) (Nat.not_le_of_lt h)
  · exact absurd (Nat.le_trans hfrom hhigh) (Nat.not_le_of_lt h)

private theorem dropWhile_isBlank_eq {cs : List Char} (h : ∀ c ∈ cs, isBlank c = false) :
    cs.dropWhile isBlank = cs := by
  cases cs with
  | nil => rfl
  | cons c cs => exact List.dropWhile_cons_of_neg (by rw [h c List.mem_cons_self]; decide)

/-- What goes from a text are blanks before the rest and blanks after it. -/
theorem exists_trimmed (cs : List Char) :
    ∃ before after, cs = before ++ trimmed cs ++ after ∧
      (∀ c ∈ before, isBlank c = true) ∧ ∀ c ∈ after, isBlank c = true := by
  refine ⟨cs.takeWhile isBlank, ((cs.dropWhile isBlank).reverse.takeWhile isBlank).reverse, ?_,
    List.all_eq_true.mp List.all_takeWhile, ?_⟩
  · rw [trimmed, dropEndWhile, List.append_assoc, ← List.reverse_append,
      List.takeWhile_append_dropWhile, List.reverse_reverse, List.takeWhile_append_dropWhile]
  · intro c hc
    exact List.all_eq_true.mp List.all_takeWhile c (List.mem_reverse.mp hc)

/-- A text without blanks is what is left of it between blanks. -/
theorem trimmed_append {before cs after : List Char} (hbefore : ∀ c ∈ before, isBlank c = true)
    (hcs : ∀ c ∈ cs, isBlank c = false) (hafter : ∀ c ∈ after, isBlank c = true) :
    trimmed (before ++ cs ++ after) = cs := by
  have hends : ∀ d ∈ after.reverse, isBlank d = true := fun d hd =>
    hafter d (List.mem_reverse.mp hd)
  have hlast : cs.reverse.dropWhile isBlank = cs.reverse :=
    dropWhile_isBlank_eq fun c hc => hcs c (List.mem_reverse.mp hc)
  rw [trimmed, List.append_assoc, List.dropWhile_append_of_pos hbefore]
  cases cs with
  | nil =>
    have hnone : after.dropWhile isBlank = [] := by
      rw [← List.append_nil after, List.dropWhile_append_of_pos hafter, List.dropWhile_nil]
    rw [List.nil_append, hnone]
    rfl
  | cons c cs =>
    rw [List.cons_append, List.dropWhile_cons_of_neg (by rw [hcs c List.mem_cons_self]; decide),
      ← List.cons_append, dropEndWhile, List.reverse_append, List.dropWhile_append_of_pos hends,
      hlast, List.reverse_reverse]

end FlowConsole.Text
