import FlowConsole.Text.Split

/-!
# Classes of characters

A character class is given by a table of inclusive code point ranges. The blanks are the characters
of Unicode's `White_Space` property, and a text can be taken without the blanks around it.
-/

namespace FlowConsole.Text

/-- The first and the last code point of a range. -/
abbrev CodeRange := Nat × Nat

/-- The character lies in one of the ranges. -/
def inRanges (ranges : List CodeRange) (c : Char) : Bool :=
  ranges.any fun r => r.1 ≤ c.toNat && c.toNat ≤ r.2

/-- Membership of a class names the range that contains the character. -/
theorem inRanges_eq_true_iff {ranges : List CodeRange} {c : Char} :
    inRanges ranges c = true ↔ ∃ r ∈ ranges, r.1 ≤ c.toNat ∧ c.toNat ≤ r.2 := by
  simp [inRanges, List.any_eq_true]

/-- A character below all of the ranges lies in none. -/
theorem inRanges_of_lt {ranges : List CodeRange} {bound : Nat} {c : Char}
    (hranges : ranges.all (fun r => bound ≤ r.1) = true) (hc : c.toNat < bound) :
    inRanges ranges c = false := by
  rw [← Bool.not_eq_true, inRanges_eq_true_iff]
  rintro ⟨r, hr, hlow, -⟩
  have := of_decide_eq_true (List.all_eq_true.mp hranges r hr)
  omega

/-! ### Blanks -/

/-- The white space code points. -/
def blankRanges : List CodeRange :=
  [(0x09, 0x0D), (0x20, 0x20), (0x85, 0x85), (0xA0, 0xA0), (0x1680, 0x1680), (0x2000, 0x200A),
    (0x2028, 0x2029), (0x202F, 0x202F), (0x205F, 0x205F), (0x3000, 0x3000)]

/-- A character with the `White_Space` property. -/
def isBlank (c : Char) : Bool := inRanges blankRanges c

/-- The text without the blanks at its start and at its end. -/
def trimmed (cs : List Char) : List Char := dropEndWhile isBlank (cs.dropWhile isBlank)

/-- `Text.trimmed` on strings. -/
def trim (s : String) : String := String.ofList (trimmed s.toList)

end FlowConsole.Text
