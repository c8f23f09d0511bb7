import EntityDiagram.Proofs.Text.Classes
import EntityDiagram.Proofs.Text.Lower
import Mathlib.Data.List.Basic

/-! # Texts in small letters

Small forms are small themselves, so a text in small letters stays as it is when it is put in small
letters again. The form of a capital sigma depends on the letters around it, but no further than to
the next character that is neither a letter with case nor transparent: there the small form of a
text falls apart into those of its parts. Blanks are such characters, and they are the same in a
text and in its small form.
-/

namespace EntityDiagram.Text

/-! ## Where the runs lead -/

/-- Whether the runs leave every code point from `low` to `high` as it is, or only every other one
from `low` on if `alternating`. -/
def leaves (alternating : Bool) (low high : Nat) : List CaseRun → Bool
  | [] => true
  | run :: rest =>
      high.blt run.first ||
        (run.last.blt low || alternating && run.stride == 2 && (low + run.first) % 2 == 1) &&
          leaves alternating low high rest

theorem shiftBy_of_leaves {alternating : Bool} {low high n : Nat} {runs : List CaseRun}
    (h : leaves alternating low high runs = true) (hlow : low ≤ n) (hhigh : n ≤ high)
    (heven : alternating = true → (n - low) % 2 = 0) : shiftBy runs n = n := by
  induction runs with
  | nil => rfl
  | cons run rest ih =>
      simp only [leaves, Bool.or_eq_true, Bool.and_eq_true, Nat.blt_eq, beq_iff_eq] at h
      rw [shiftBy]
      rcases h with hbefore | ⟨hmissed, hrest⟩
      · rw [if_pos (by omega)]
      · have hcovers : ¬ run.covers n = true := by
          intro hcovers
          simp only [CaseRun.covers, Bool.and_eq_true, decide_eq_true_eq, beq_iff_eq] at hcovers
          rcases hmissed with hafter | ⟨⟨halternating, hstride⟩, hodd⟩
          · omega
          · have hparity := heven halternating
            rw [hstride] at hcovers
            omega
        rw [if_neg hcovers, ih hrest, ite_self]

namespace CaseRun

/-- Whether the code points of the run are an even distance apart. -/
def alternates (run : CaseRun) : Bool := run.stride == 2 || run.first == run.last

/-- The code point that the run leads to from its first one. -/
def low (run : CaseRun) : Nat := (run.first + run.shift).toNat

/-- The code point that the run leads to from its last one. -/
def high (run : CaseRun) : Nat := (run.last + run.shift).toNat

theorem leaves_lowerRuns : ∀ run ∈ lowerRuns,
    leaves run.alternates run.low run.high lowerRuns = true := by
  decide +kernel

/-- No run leads to a blank, nor to one of the two letters with a rule of their own. -/
theorem isApart_lowerRuns : ∀ range ∈ (0x130, 0x130) :: (0x3A3, 0x3A3) :: blankRanges,
    ∀ run ∈ lowerRuns, run.high < range.1 ∨ range.2 < run.low := by
  decide +kernel

theorem low_le_shift {run : CaseRun} {n : Nat} (hcovers : run.covers n = true) :
    run.low ≤ (n + run.shift).toNat := by
  simp only [covers, Bool.and_eq_true, decide_eq_true_eq] at hcovers
  unfold low
  omega

theorem shift_le_high {run : CaseRun} {n : Nat} (hcovers : run.covers n = true) :
    (n + run.shift).toNat ≤ run.high := by
  simp only [covers, Bool.and_eq_true, decide_eq_true_eq] at hcovers
  unfold high
  omega

theorem even_shift {run : CaseRun} {n : Nat} (hrun : run.leadsToLetters = true)
    (hcovers : run.covers n = true) (halternates : run.alternates = true) :
    ((n + run.shift).toNat - run.low) % 2 = 0 := by
  simp only [leadsToLetters, Bool.and_eq_true, Bool.or_eq_true, decide_eq_true_eq] at hrun
  simp only [covers, Bool.and_eq_true, decide_eq_true_eq, beq_iff_eq] at hcovers
  simp only [alternates, Bool.or_eq_true, beq_iff_eq] at halternates
  unfold low
  rcases halternates with hstride | hsingle
  · rw [hstride] at hcovers
    omega
  · omega

theorem shiftBy_shift {run : CaseRun} {n : Nat} (hrun : run ∈ lowerRuns)
    (hcovers : run.covers n = true) :
    shiftBy lowerRuns (n + run.shift).toNat = (n + run.shift).toNat :=
  shiftBy_of_leaves (leaves_lowerRuns run hrun) (low_le_shift hcovers) (shift_le_high hcovers)
    (even_shift (leadsToLetters_of_mem_lowerRuns run hrun) hcovers)

theorem shift_not_mem {run : CaseRun} {n : Nat} (hrun : run ∈ lowerRuns)
    (hcovers : run.covers n = true) (range : Nat × Nat)
    (hrange : range ∈ (0x130, 0x130) :: (0x3A3, 0x3A3) :: blankRanges) :
    ¬ (range.1 ≤ (n + run.shift).toNat ∧ (n + run.shift).toNat ≤ range.2) := by
  have hlow := low_le_shift hcovers
  have hhigh := shift_le_high hcovers
  rcases isApart_lowerRuns range hrange run hrun with hbefore | hafter <;> omega

end CaseRun

/-! ## Small characters -/

theorem lowerChar_of_ne {c : Char} (hc : c ≠ 'Σ') (final : Bool) :
    lowerChar final c = lowerChar false c := by
  simp only [lowerChar, if_neg hc]

theorem lowerChar_of_isSmall {c : Char} (h : IsSmall c) (final : Bool) :
    lowerChar final c = [c] := by
  have hsigma : c ≠ 'Σ' := by
    rintro rfl
    exact absurd h (by decide)
  rw [lowerChar_of_ne hsigma]
  exact h

theorem isSmall_of_mem_lowerChar {final : Bool} {c d : Char} (h : d ∈ lowerChar final c) :
    IsSmall d := by
  cases smallForm_of_mem_lowerChar h with
  | sigma hd => rcases hd with rfl | rfl <;> decide
  | dotted hd => rcases hd with rfl | rfl <;> decide
  | same hc => exact hc
  | shifted hrun hcovers hd =>
      have hfixed := CaseRun.shiftBy_shift hrun hcovers
      have hsigma := CaseRun.shift_not_mem hrun hcovers (0x3A3, 0x3A3) (by simp)
      have hdotted := CaseRun.shift_not_mem hrun hcovers (0x130, 0x130) (by simp)
      rw [← hd] at hfixed hsigma hdotted
      have hd_ne_sigma : d ≠ 'Σ' := by
        rintro rfl
        exact hsigma (by decide)
      have hd_ne_dotted : d ≠ 'İ' := by
        rintro rfl
        exact hdotted (by decide)
      exact isSmall_of_shiftBy hd_ne_sigma hd_ne_dotted hfixed

theorem isBlank_of_mem_lowerChar {final : Bool} {c d : Char} (h : d ∈ lowerChar final c)
    (hc : isBlank c = false) : isBlank d = false := by
  cases smallForm_of_mem_lowerChar h with
  | sigma hd => rcases hd with rfl | rfl <;> decide
  | dotted hd => rcases hd with rfl | rfl <;> decide
  | same _ => exact hc
  | shifted hrun hcovers hd =>
      rw [Bool.eq_false_iff]
      intro hblank
      rw [isBlank, hd] at hblank
      obtain ⟨range, hrange, hbounds⟩ := exists_mem_of_inRanges hblank
      exact CaseRun.shift_not_mem hrun hcovers range (by simp [hrange]) hbounds

/-! ## Texts -/

theorem exists_of_mem_lowerFrom {after : Bool} {cs : List Char} {d : Char}
    (h : d ∈ lowerFrom after cs) : ∃ final, ∃ c ∈ cs, d ∈ lowerChar final c := by
  induction cs generalizing after with
  | nil => simp [lowerFrom] at h
  | cons c rest ih =>
      rw [lowerFrom, List.mem_append] at h
      rcases h with h | h
      · exact ⟨_, c, List.mem_cons_self, h⟩
      · obtain ⟨final, found, hmem, hd⟩ := ih h
        exact ⟨final, found, List.mem_cons_of_mem c hmem, hd⟩

theorem lowerFrom_of_isSmall {cs : List Char} (h : ∀ c ∈ cs, IsSmall c) (after : Bool) :
    lowerFrom after cs = cs := by
  induction cs generalizing after with
  | nil => rfl
  | cons c rest ih =>
      rw [List.forall_mem_cons] at h
      rw [lowerFrom, lowerChar_of_isSmall h.1, ih h.2, List.singleton_append]

theorem isSmall_of_mem_lower {s : String} {d : Char} (h : d ∈ (lower s).toList) : IsSmall d := by
  rw [lower, String.toList_ofList] at h
  obtain ⟨final, c, -, hd⟩ := exists_of_mem_lowerFrom h
  exact isSmall_of_mem_lowerChar hd

/-- The texts in small letters are those of small characters. -/
theorem lower_eq_self_iff {s : String} : lower s = s ↔ ∀ c ∈ s.toList, IsSmall c := by
  constructor
  · intro h c hc
    rw [← h] at hc
    exact isSmall_of_mem_lower hc
  · intro h
    rw [lower, lowerFrom_of_isSmall h, String.ofList_toList]

@[simp] theorem lower_lower (s : String) : lower (lower s) = lower s :=
  lower_eq_self_iff.mpr fun _ hc => isSmall_of_mem_lower hc

theorem isUpper_of_isSmall {c : Char} (h : IsSmall c) : c.isUpper = false := by
  have hascii : ∀ n < 0x80, IsSmall (Char.ofNat n) → (Char.ofNat n).isUpper = false := by
    decide +kernel
  by_cases hc : c.toNat < 0x80
  · have hsmall : IsSmall (Char.ofNat c.toNat) := by rwa [Char.ofNat_toNat]
    simpa only [Char.ofNat_toNat] using hascii c.toNat hc hsmall
  · rw [Bool.eq_false_iff]
    intro hupper
    have hle : c.toNat ≤ 90 := UInt32.le_iff_toNat_le.mp (of_decide_eq_true hupper).2
    omega

/-! ## Where a text falls apart -/

/-- A small character that ends the search for letters around a capital sigma, being neither
transparent nor a letter with case. -/
structure IsPlain (c : Char) : Prop where
  small : IsSmall c
  solid : isTransparent c = false
  uncased : isCased c = false

theorem startsCased_cons (c : Char) (rest : List Char) :
    startsCased (c :: rest) = if isTransparent c then startsCased rest else isCased c := by
  unfold startsCased
  cases htransparent : isTransparent c <;> simp [htransparent]

theorem startsCased_append_plain {c : Char} (hc : IsPlain c) (front rest : List Char) :
    startsCased (front ++ c :: rest) = startsCased front := by
  induction front with
  | nil => simp [hc.solid, hc.uncased, startsCased]
  | cons first front ih => rw [List.cons_append, startsCased_cons, startsCased_cons, ih]

theorem lowerFrom_plain_cons {c : Char} (hc : IsPlain c) (after : Bool) (rest : List Char) :
    lowerFrom after (c :: rest) = c :: lowerFrom false rest := by
  rw [lowerFrom, lowerChar_of_isSmall hc.small, hc.solid, hc.uncased, if_neg Bool.false_ne_true,
    List.singleton_append]

/-- Around a plain character the parts of a text do not change each other's small forms. -/
theorem lowerFrom_append_plain {c : Char} (hc : IsPlain c) (after : Bool)
    (front rest : List Char) :
    lowerFrom after (front ++ c :: rest) =
      lowerFrom after front ++ c :: lowerFrom false rest := by
  induction front generalizing after with
  | nil => exact lowerFrom_plain_cons hc after rest
  | cons first front ih =>
      rw [List.cons_append, lowerFrom, startsCased_append_plain hc, ih, ← List.append_assoc]
      rfl

section

variable {plains : List Char} (h : ∀ c ∈ plains, IsPlain c)

include h

theorem lowerFrom_plains_append (rest : List Char) :
    lowerFrom false (plains ++ rest) = plains ++ lowerFrom false rest := by
  induction plains with
  | nil => rfl
  | cons c plains ih =>
      rw [List.forall_mem_cons] at h
      rw [List.cons_append, lowerFrom_plain_cons h.1, ih h.2, List.cons_append]

theorem lowerFrom_append_plains (after : Bool) (front : List Char) :
    lowerFrom after (front ++ plains) = lowerFrom after front ++ plains := by
  cases plains with
  | nil => rw [List.append_nil, List.append_nil]
  | cons c plains =>
      rw [List.forall_mem_cons] at h
      rw [lowerFrom_append_plain h.1, lowerFrom_of_isSmall fun d hd => (h.2 d hd).small]

end

/-! ## Blanks and punctuation in a text -/

theorem leaves_blankRanges : ∀ range ∈ blankRanges,
    leaves false range.1 range.2 lowerRuns = true := by
  decide +kernel

theorem isSmall_of_isBlank {c : Char} (h : isBlank c = true) : IsSmall c := by
  rw [isBlank] at h
  obtain ⟨range, hrange, hlow, hhigh⟩ := exists_mem_of_inRanges h
  have hfixed : shiftBy lowerRuns c.toNat = c.toNat :=
    shiftBy_of_leaves (leaves_blankRanges range hrange) hlow hhigh (by simp)
  have hsigma : c ≠ 'Σ' := by
    rintro rfl
    exact absurd h (by decide)
  have hdotted : c ≠ 'İ' := by
    rintro rfl
    exact absurd h (by decide)
  exact isSmall_of_shiftBy hsigma hdotted hfixed

theorem isPlain_of_isBlank {c : Char} (h : isBlank c = true) : IsPlain c where
  small := isSmall_of_isBlank h
  solid := inRanges_eq_false_of_disjoint (by decide +kernel) h
  uncased := inRanges_eq_false_of_disjoint (by decide +kernel) h

theorem exists_of_head?_lowerFrom {after : Bool} {cs : List Char} {d : Char}
    (h : d ∈ (lowerFrom after cs).head?) : ∃ final, ∃ c ∈ cs.head?, d ∈ lowerChar final c := by
  cases cs with
  | nil => simp [lowerFrom] at h
  | cons c rest =>
      rw [lowerFrom, List.head?_append, List.head?_eq_some_head (lowerChar_ne_nil _ c),
        Option.some_or] at h
      exact ⟨_, c, rfl, Option.some.inj h ▸ List.head_mem _⟩

theorem exists_of_getLast?_lowerFrom {after : Bool} {cs : List Char} {d : Char}
    (h : d ∈ (lowerFrom after cs).getLast?) :
    ∃ final, ∃ c ∈ cs.getLast?, d ∈ lowerChar final c := by
  rcases List.eq_nil_or_concat' cs with rfl | ⟨front, c, rfl⟩
  · simp [lowerFrom] at h
  · obtain ⟨lowered, next, hlowered⟩ := exists_lowerFrom_append after front [c]
    rw [hlowered, lowerFrom, lowerFrom, List.append_nil,
      List.getLast?_append_of_ne_nil _ (lowerChar_ne_nil _ c)] at h
    exact ⟨_, c, by simp, List.mem_of_mem_getLast? h⟩

theorem head?_lowerFrom_not_blank {cs : List Char} (h : ∀ c ∈ cs.head?, isBlank c = false)
    (after : Bool) : ∀ d ∈ (lowerFrom after cs).head?, isBlank d = false := by
  intro d hd
  obtain ⟨final, c, hc, hform⟩ := exists_of_head?_lowerFrom hd
  exact isBlank_of_mem_lowerChar hform (h c hc)

theorem getLast?_lowerFrom_not_blank {cs : List Char} (h : ∀ c ∈ cs.getLast?, isBlank c = false)
    (after : Bool) : ∀ d ∈ (lowerFrom after cs).getLast?, isBlank d = false := by
  intro d hd
  obtain ⟨final, c, hc, hform⟩ := exists_of_getLast?_lowerFrom hd
  exact isBlank_of_mem_lowerChar hform (h c hc)

/-- Punctuation at the end of a text in small letters ends the text too. -/
theorem getLast?_of_getLast?_lowerFrom {after : Bool} {cs : List Char} {d : Char}
    (hd : d.toNat < 0x61) (h : d ∈ (lowerFrom after cs).getLast?) : d ∈ cs.getLast? := by
  obtain ⟨final, c, hc, hform⟩ := exists_of_getLast?_lowerFrom h
  rcases eq_or_le_of_mem_lowerChar hform with rfl | hle
  · exact hc
  · omega

end EntityDiagram.Text
