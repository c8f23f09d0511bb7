/-! # Ranges of code points

A set of characters is written as a list of closed ranges of code points, ascending and disjoint.
-/

namespace EntityDiagram.Text

/-- Whether `n` lies in one of the closed ranges. The search stops at the first range that starts
above `n`, so the ranges must be ascending. -/
def inRanges : List (Nat × Nat) → Nat → Bool
  | [], _ => false
  | (first, last) :: rest, n => if n < first then false else n ≤ last || inRanges rest n

@[simp] theorem inRanges_nil (n : Nat) : inRanges [] n = false := rfl

theorem exists_mem_of_inRanges {ranges : List (Nat × Nat)} {n : Nat}
    (h : inRanges ranges n = true) : ∃ range ∈ ranges, range.1 ≤ n ∧ n ≤ range.2 := by
  induction ranges with
  | nil => simp at h
  | cons range rest ih =>
      obtain ⟨first, last⟩ := range
      rw [inRanges] at h
      split at h
      · contradiction
      · next hfirst =>
          cases hl : decide (n ≤ last) with
          | true => exact ⟨(first, last), by simp, by omega, by simpa using hl⟩
          | false =>
              rw [hl, Bool.false_or] at h
              obtain ⟨found, hmem, hbounds⟩ := ih h
              exact ⟨found, by simp [hmem], hbounds⟩

end EntityDiagram.Text
