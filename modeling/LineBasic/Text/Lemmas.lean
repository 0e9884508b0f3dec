import Mathlib
import LineBasic.Text.Blank
import LineBasic.Text.Break
import LineBasic.Text.Digit
import LineBasic.Text.Invisible

/-!
How the classes of characters lie to each other. Blanks separate, so no letter or
digit is one (`isBlank_eq_false_of_isAlphanum`); they include the usual white
space (`isBlank_of_isWhitespace`) and every character that ends a line
(`isBlank_of_isBreak`). The digits of the language are decimal digits, with the
same values (`digitValue?_of_isDigit`). The characters that do not show are those
of the ranges (`isInvisible_iff`), and include every blank but the space
(`isInvisible_of_isBlank`).
-/
namespace LineBasic.Text

/-- No letter or digit is blank. -/
theorem isBlank_eq_false_of_isAlphanum {c : Char} (alphanumeric : c.isAlphanum = true) : isBlank c = false := by
  simp only [Char.isAlphanum, Char.isAlpha, Char.isUpper, Char.isLower, Char.isDigit, Bool.or_eq_true,
    decide_eq_true_eq, Bool.and_eq_true, ge_iff_le, UInt32.le_iff_toNat_le] at alphanumeric
  change ((65 ≤ c.toNat ∧ c.toNat ≤ 90) ∨ (97 ≤ c.toNat ∧ c.toNat ≤ 122)) ∨ (48 ≤ c.toNat ∧ c.toNat ≤ 57)
    at alphanumeric
  simp only [isBlank, Bool.or_eq_false_iff, Bool.and_eq_false_iff, decide_eq_false_iff_not, beq_eq_false_iff_ne]
  omega

/-- No digit is a letter. -/
theorem isAlpha_eq_false_of_isDigit {c : Char} (digit : c.isDigit = true) : c.isAlpha = false := by
  have range : 48 ≤ c.toNat ∧ c.toNat ≤ 57 := by
    simp only [Char.isDigit, Bool.and_eq_true, decide_eq_true_eq, ge_iff_le, UInt32.le_iff_toNat_le] at digit
    exact digit
  simp only [← Bool.not_eq_true, Char.isAlpha, Char.isUpper, Char.isLower, Bool.or_eq_true, Bool.and_eq_true,
    decide_eq_true_eq, ge_iff_le, UInt32.le_iff_toNat_le]
  change ¬ ((65 ≤ c.toNat ∧ c.toNat ≤ 90) ∨ (97 ≤ c.toNat ∧ c.toNat ≤ 122))
  omega

/-- The usual white space is blank. -/
theorem isBlank_of_isWhitespace {c : Char} (white : c.isWhitespace = true) : isBlank c = true := by
  simp only [Char.isWhitespace, Bool.or_eq_true, decide_eq_true_eq] at white
  rcases white with ((rfl | rfl) | rfl) | rfl <;> decide

/-- A character that ends a line is blank. -/
theorem isBlank_of_isBreak {c : Char} (ends : isBreak c = true) : isBlank c = true := by
  simp only [isBreak, Bool.or_eq_true, Bool.and_eq_true, decide_eq_true_eq, beq_iff_eq] at ends
  simp only [isBlank, Bool.or_eq_true, Bool.and_eq_true, decide_eq_true_eq, beq_iff_eq]
  omega

/-- An ASCII digit is a decimal digit, of the value that it has in the language. -/
theorem digitValue?_of_isDigit {c : Char} (digit : c.isDigit = true) : digitValue? c = some (c.toNat - 48) := by
  have range : 48 ≤ c.toNat ∧ c.toNat ≤ 57 := by
    simp only [Char.isDigit, Bool.and_eq_true, decide_eq_true_eq, ge_iff_le, UInt32.le_iff_toNat_le] at digit
    exact digit
  have first : (digitZeros.find? fun first => first ≤ c.toNat && c.toNat < first + 10) = some 48 := by
    refine List.find?_cons_of_pos ?_
    simp only [Bool.and_eq_true, decide_eq_true_eq]
    omega
  rw [digitValue?, first, Option.map_some]

theorem Apart.trans {range later last : Nat × Nat} (before : Apart range later) (after : Apart later last) :
    Apart range last := by
  unfold Apart at *
  omega

/-- Of ranges in order, the first that does not end before a number is the only one
    that can hold it. -/
theorem inRanges_iff {ranges : List (Nat × Nat)} (ordered : ranges.Pairwise Apart) {n : Nat} :
    inRanges ranges n = true ↔ ∃ range ∈ ranges, range.1 ≤ n ∧ n ≤ range.2 := by
  induction ranges with
  | nil => simp [inRanges]
  | cons range later ih =>
    obtain ⟨apart, ordered⟩ := List.pairwise_cons.1 ordered
    by_cases reached : n ≤ range.2
    · have here : inRanges (range :: later) n = decide (range.1 ≤ n) := by simp [inRanges, reached]
      rw [here, decide_eq_true_eq]
      constructor
      · exact fun above => ⟨range, List.mem_cons_self, above, reached⟩
      · rintro ⟨other, member, above, _⟩
        rcases List.mem_cons.1 member with rfl | member
        · exact above
        · have := (apart other member).2
          omega
    · have skipped : inRanges (range :: later) n = inRanges later n := by simp [inRanges, reached]
      rw [skipped, ih ordered]
      constructor
      · exact fun ⟨other, member, inside⟩ => ⟨other, List.mem_cons_of_mem _ member, inside⟩
      · rintro ⟨other, member, above, below⟩
        rcases List.mem_cons.1 member with rfl | member
        · exact absurd below reached
        · exact ⟨other, member, above, below⟩

/-- The ranges of characters that do not show are in order and apart. -/
theorem invisibleRanges_pairwise : invisibleRanges.Pairwise Apart := by
  have : Trans Apart Apart Apart := ⟨Apart.trans⟩
  have chain : invisibleRanges.IsChain Apart := by decide +kernel
  exact chain.pairwise

/-- The characters that do not show are those of the ranges. -/
theorem isInvisible_iff {c : Char} :
    isInvisible c = true ↔ ∃ range ∈ invisibleRanges, range.1 ≤ c.toNat ∧ c.toNat ≤ range.2 :=
  inRanges_iff invisibleRanges_pairwise

/-- A blank other than the space does not show. -/
theorem isInvisible_of_isBlank {c : Char} (blank : isBlank c = true) (other : c.toNat ≠ 0x20) :
    isInvisible c = true := by
  simp only [isBlank, Bool.or_eq_true, Bool.and_eq_true, decide_eq_true_eq, beq_iff_eq] at blank
  have inside : ∃ range ∈ [(0x0, 0x1F), (0x7F, 0xA0), (0x1680, 0x1680), (0x1FFF, 0x200F), (0x2028, 0x202F),
      (0x205F, 0x206F), (0x2FFC, 0x3000)], range.1 ≤ c.toNat ∧ c.toNat ≤ range.2 := by
    simp only [List.mem_cons, List.not_mem_nil, or_false, exists_eq_or_imp, exists_eq_left]
    omega
  obtain ⟨range, member, bounds⟩ := inside
  exact isInvisible_iff.2 ⟨range, (show _ ⊆ invisibleRanges by decide +kernel) member, bounds⟩

end LineBasic.Text
