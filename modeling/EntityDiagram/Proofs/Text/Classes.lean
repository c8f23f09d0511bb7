import EntityDiagram.Diagram.Line.Name
import EntityDiagram.Text.Word

/-! # Classes of characters that have nothing in common -/

namespace EntityDiagram.Text

/-- Ranges that do not overlap pairwise share no code point. -/
theorem inRanges_eq_false_of_disjoint {ranges others : List (Nat × Nat)} {n : Nat}
    (hdisjoint : ∀ range ∈ ranges, ∀ other ∈ others, range.2 < other.1 ∨ other.2 < range.1)
    (h : inRanges ranges n = true) : inRanges others n = false := by
  obtain ⟨range, hrange, hlow, hhigh⟩ := exists_mem_of_inRanges h
  cases hother : inRanges others n with
  | false => rfl
  | true =>
      obtain ⟨other, hmem, hlow', hhigh'⟩ := exists_mem_of_inRanges hother
      rcases hdisjoint range hrange other hmem with hlt | hlt <;> omega

/-- No character is both blank and part of a word. -/
theorem isWord_of_isBlank {c : Char} (h : isBlank c = true) : isWord c = false :=
  inRanges_eq_false_of_disjoint (by decide +kernel) h

theorem isBlank_of_isWord {c : Char} (h : isWord c = true) : isBlank c = false := by
  cases hblank : isBlank c with
  | false => rfl
  | true =>
      rw [isWord_of_isBlank hblank] at h
      contradiction

end EntityDiagram.Text

namespace EntityDiagram.Line

/-- The characters of bare names, as ranges. -/
def nameRanges : List (Nat × Nat) :=
  [(0x2D, 0x2D), (0x30, 0x39), (0x41, 0x5A), (0x5F, 0x5F), (0x61, 0x7A)]

theorem isNameChar_eq_inRanges (c : Char) : isNameChar c = Text.inRanges nameRanges c.toNat := by
  have hunderscore : c = '_' ↔ c.toNat = 0x5F := Char.toNat_inj.symm
  have hhyphen : c = '-' ↔ c.toNat = 0x2D := Char.toNat_inj.symm
  have halphanum : c.isAlphanum =
      (decide (65 ≤ c.val ∧ c.val ≤ 90) || (decide (97 ≤ c.val) && decide (c.val ≤ 122)) ||
        (decide (48 ≤ c.val) && decide (c.val ≤ 57))) := rfl
  rw [Bool.eq_iff_iff]
  simp only [isNameChar, halphanum, UInt32.le_iff_toNat_le, UInt32.reduceToNat, Char.toNat_val,
    Bool.decide_and, hunderscore, hhyphen, Bool.or_eq_true, Bool.and_eq_true, decide_eq_true_eq,
    nameRanges, Text.inRanges, Bool.or_false, Bool.if_false_left,
    Bool.not_eq_eq_eq_not, Bool.not_true, decide_eq_false_iff_not, Nat.not_lt]
  omega

theorem isNameChar_of_isBlank {c : Char} (h : Text.isBlank c = true) : isNameChar c = false := by
  rw [isNameChar_eq_inRanges]
  exact Text.inRanges_eq_false_of_disjoint (by decide) h

theorem isBlank_of_isNameChar {c : Char} (h : isNameChar c = true) : Text.isBlank c = false := by
  cases hblank : Text.isBlank c with
  | false => rfl
  | true =>
      rw [isNameChar_of_isBlank hblank] at h
      contradiction

end EntityDiagram.Line
