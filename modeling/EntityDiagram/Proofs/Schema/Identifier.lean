import EntityDiagram.Proofs.Text.Small

/-! # Identifiers are canonical

An identifier is made in three passes: words are broken at capital letters, separators are
collapsed, and the result is put in small letters. The underscores of the first pass stand between
two letters, where they neither touch nor split a run of separators, so the first two passes are one
pass that looks at the character before. What comes out is in small letters and has no separators,
and on such a text none of the passes changes anything.
-/

namespace EntityDiagram.Name

theorem isSeparator_eq_false_iff {c : Char} :
    isSeparator c = false ↔ Text.isBlank c = false ∧ c ≠ '-' := by
  simp [isSeparator, and_comm]

/-! ## One pass -/

/-- What is written for `c` after the character `previous`, if there is one: one underscore where a
run of separators starts, and one before a capital letter that follows a small one. -/
def written (previous : Option Char) (c : Char) : List Char :=
  if isSeparator c then if previous.any isSeparator then [] else ['_']
  else if previous.any Char.isLower && c.isUpper then ['_', c]
  else [c]

/-- Writes a text character by character, after the character `previous`. -/
def writtenFrom (previous : Option Char) : List Char → List Char
  | [] => []
  | c :: rest => written previous c ++ writtenFrom (some c) rest

theorem isSeparator_of_isAlpha {c : Char} (h : c.isAlpha = true) : isSeparator c = false := by
  have hname : Line.isNameChar c = true := by simp [Line.isNameChar, Char.isAlphanum, h]
  refine isSeparator_eq_false_iff.mpr ⟨Line.isBlank_of_isNameChar hname, ?_⟩
  rintro rfl
  exact absurd h (by decide)

theorem collapseFrom_cons (inRun : Bool) (c : Char) (rest : List Char) :
    collapseFrom inRun (c :: rest) =
      collapseFrom inRun [c] ++ collapseFrom (isSeparator c) rest := by
  cases hc : isSeparator c <;> cases inRun <;> simp [collapseFrom, hc]

theorem collapseFrom_singleton {c : Char} (hc : isSeparator c = false) (inRun : Bool) :
    collapseFrom inRun [c] = [c] := by
  simp [collapseFrom, hc]

theorem written_of_not_isWordBreak {a b : Char} (h : isWordBreak a b = false) :
    written (some a) b = collapseFrom (isSeparator a) [b] := by
  unfold isWordBreak at h
  simp [written, collapseFrom, h]

theorem isSeparator_of_isWordBreak {a b : Char} (h : isWordBreak a b = true) :
    isSeparator b = false := by
  rw [isWordBreak, Bool.and_eq_true] at h
  exact isSeparator_of_isAlpha (Bool.or_eq_true_iff.mpr (.inl h.2))

theorem written_of_isWordBreak {a b : Char} (h : isWordBreak a b = true) :
    written (some a) b = ['_', b] := by
  have hb := isSeparator_of_isWordBreak h
  unfold isWordBreak at h
  simp [written, hb, h]

/-- An underscore that breaks a word stands between two letters, so it is no part of a run. -/
theorem collapseFrom_breakWords_cons (inRun : Bool) (c : Char) (rest : List Char) :
    collapseFrom inRun (breakWords (c :: rest)) =
      collapseFrom inRun [c] ++ writtenFrom (some c) rest := by
  induction rest generalizing inRun c with
  | nil => simp [breakWords, writtenFrom]
  | cons next rest ih =>
      rw [breakWords, writtenFrom]
      cases hbreak : isWordBreak c next with
      | true =>
          have hnext := isSeparator_of_isWordBreak hbreak
          have hunderscore : isSeparator '_' = false := by decide
          rw [if_pos rfl, collapseFrom_cons, collapseFrom_cons _ '_', ih,
            written_of_isWordBreak hbreak, collapseFrom_singleton hunderscore,
            collapseFrom_singleton hnext]
          rfl
      | false =>
          rw [if_neg Bool.false_ne_true, collapseFrom_cons, ih, written_of_not_isWordBreak hbreak]

theorem collapseFrom_breakWords (cs : List Char) :
    collapseFrom false (breakWords cs) = writtenFrom none cs := by
  cases cs with
  | nil => rfl
  | cons c rest =>
      rw [collapseFrom_breakWords_cons, writtenFrom]
      simp [collapseFrom, written]

/-! ## Canonical identifiers -/

theorem isSeparator_of_mem_collapseFrom {inRun : Bool} {cs : List Char} {c : Char}
    (h : c ∈ collapseFrom inRun cs) : isSeparator c = false := by
  induction cs generalizing inRun with
  | nil => simp [collapseFrom] at h
  | cons first rest ih =>
      rw [collapseFrom_cons, List.mem_append] at h
      rcases h with h | h
      · cases hfirst : isSeparator first with
        | true =>
            have hunderscore : c = '_' := by
              cases inRun <;> simp [collapseFrom, hfirst] at h
              exact h
            subst hunderscore
            decide
        | false =>
            rw [collapseFrom_singleton hfirst, List.mem_singleton] at h
            rwa [h]
      · exact ih h

theorem isSeparator_of_mem_identifier {s : String} {d : Char} (h : d ∈ (identifier s).toList) :
    isSeparator d = false := by
  rw [identifier, Text.lower, String.toList_ofList, String.toList_ofList] at h
  obtain ⟨final, c, hc, hform⟩ := Text.exists_of_mem_lowerFrom h
  obtain ⟨hblank, hhyphen⟩ := isSeparator_eq_false_iff.mp (isSeparator_of_mem_collapseFrom hc)
  refine isSeparator_eq_false_iff.mpr ⟨Text.isBlank_of_mem_lowerChar hform hblank, ?_⟩
  rintro rfl
  rcases Text.eq_or_le_of_mem_lowerChar hform with heq | hle
  · exact hhyphen heq.symm
  · exact absurd hle (by decide)

theorem breakWords_of_forall {cs : List Char} (h : ∀ c ∈ cs, c.isUpper = false) :
    breakWords cs = cs := by
  fun_induction breakWords cs with
  | case1 => rfl
  | case2 c => rfl
  | case3 a b rest hbreak ih =>
      have hb := h b (by simp)
      simp [isWordBreak, hb] at hbreak
  | case4 a b rest hbreak ih => rw [ih fun c hc => h c (List.mem_cons_of_mem a hc)]

theorem collapseFrom_of_forall {cs : List Char} (h : ∀ c ∈ cs, isSeparator c = false)
    (inRun : Bool) : collapseFrom inRun cs = cs := by
  induction cs generalizing inRun with
  | nil => rfl
  | cons c rest ih =>
      rw [List.forall_mem_cons] at h
      rw [collapseFrom_cons, collapseFrom_singleton h.1, ih h.2, List.singleton_append]

theorem identifier_eq_self_iff {s : String} :
    identifier s = s ↔ (∀ c ∈ s.toList, isSeparator c = false) ∧ Text.lower s = s := by
  constructor
  · intro h
    constructor
    · intro c hc
      rw [← h] at hc
      exact isSeparator_of_mem_identifier hc
    · rw [← h]
      exact Text.lower_lower _
  · rintro ⟨hseparators, hlower⟩
    have hupper : ∀ c ∈ s.toList, c.isUpper = false :=
      fun c hc => Text.isUpper_of_isSmall (Text.lower_eq_self_iff.mp hlower c hc)
    rw [identifier, breakWords_of_forall hupper, collapseFrom_of_forall hseparators,
      String.ofList_toList, hlower]

/-- Every identifier is without blanks, hyphens and capital letters and is its own identifier, as
are exactly the texts in small letters without blanks and hyphens. It is made by one pass over the
name, and small letters after that. -/
theorem identifier_canonical (s : String) :
    (∀ c ∈ (identifier s).toList, Text.isBlank c = false ∧ c ≠ '-' ∧ c.isUpper = false) ∧
      identifier (identifier s) = identifier s ∧
      (identifier s = s ↔
        (∀ c ∈ s.toList, Text.isBlank c = false ∧ c ≠ '-') ∧ Text.lower s = s) ∧
      identifier s = Text.lower (String.ofList (writtenFrom none s.toList)) := by
  refine ⟨?_, ?_, ?_, ?_⟩
  · intro c hc
    obtain ⟨hblank, hhyphen⟩ := isSeparator_eq_false_iff.mp (isSeparator_of_mem_identifier hc)
    exact ⟨hblank, hhyphen, Text.isUpper_of_isSmall (Text.isSmall_of_mem_lower hc)⟩
  · exact identifier_eq_self_iff.mpr
      ⟨fun c hc => isSeparator_of_mem_identifier hc, Text.lower_lower _⟩
  · simpa only [isSeparator_eq_false_iff] using identifier_eq_self_iff
  · rw [identifier, collapseFrom_breakWords]

example : String.ofList (writtenFrom none "lineItem - HTTPCode".toList) = "line_Item_HTTPCode" := by
  decide

end EntityDiagram.Name
