import EntityDiagram.Schema.Name
import EntityDiagram.Text.Case

/-! # What small letters and identifiers are made of

The small form of a character is the character itself or lies above the ASCII punctuation, so a
text in small letters holds no punctuation that was not there before. A word in ASCII letters is the
same in small letters wherever it stands. An identifier adds nothing to a text in small letters but
underscores, and is empty for the empty name only.
-/

namespace EntityDiagram

namespace Text

theorem toNat_ofNat_of_isValidChar {n : Nat} (h : n.isValidChar) : (Char.ofNat n).toNat = n := by
  rw [Char.ofNat, dif_pos h]
  exact UInt32.toNat_ofNatLT

theorem shiftBy_eq_self_or (runs : List CaseRun) (n : Nat) :
    shiftBy runs n = n ∨
      ∃ run ∈ runs, run.covers n = true ∧ shiftBy runs n = (n + run.shift).toNat := by
  induction runs with
  | nil => exact .inl rfl
  | cons run rest ih =>
      rw [shiftBy]
      by_cases hbefore : n < run.first
      · rw [if_pos hbefore]
        exact .inl rfl
      · rw [if_neg hbefore]
        by_cases hcovers : run.covers n = true
        · rw [if_pos hcovers]
          exact .inr ⟨run, List.mem_cons_self, hcovers, rfl⟩
        · rw [if_neg hcovers]
          rcases ih with hself | ⟨found, hmem, hfound⟩
          · exact .inl hself
          · exact .inr ⟨found, List.mem_cons_of_mem run hmem, hfound⟩

/-- The code points that a run leads to are characters from the small letter a on. -/
def CaseRun.leadsToLetters (run : CaseRun) : Bool :=
  0x61 ≤ run.first + run.shift &&
    (run.last + run.shift < 0xD800 || 0xDFFF < run.first + run.shift) &&
    run.last + run.shift < 0x110000

theorem leadsToLetters_of_mem_lowerRuns : ∀ run ∈ lowerRuns, run.leadsToLetters = true := by
  decide +kernel

theorem CaseRun.toNat_ofNat_shift {run : CaseRun} {n : Nat} (hrun : run.leadsToLetters = true)
    (hcovers : run.covers n = true) :
    (Char.ofNat (n + run.shift).toNat).toNat = (n + run.shift).toNat := by
  simp only [leadsToLetters, Bool.and_eq_true, Bool.or_eq_true, decide_eq_true_eq] at hrun
  simp only [covers, Bool.and_eq_true, decide_eq_true_eq] at hcovers
  have hvalid : (n + run.shift).toNat.isValidChar := by
    unfold Nat.isValidChar
    omega
  exact toNat_ofNat_of_isValidChar hvalid

theorem CaseRun.le_toNat_shift {run : CaseRun} {n : Nat} (hrun : run.leadsToLetters = true)
    (hcovers : run.covers n = true) : 0x61 ≤ (n + run.shift).toNat := by
  simp only [leadsToLetters, Bool.and_eq_true, Bool.or_eq_true, decide_eq_true_eq] at hrun
  simp only [covers, Bool.and_eq_true, decide_eq_true_eq] at hcovers
  omega

/-- A character that is its own small form. -/
def IsSmall (c : Char) : Prop := lowerChar false c = [c]

instance : DecidablePred IsSmall := fun c => inferInstanceAs (Decidable (lowerChar false c = [c]))

theorem isSmall_of_shiftBy {c : Char} (hsigma : c ≠ 'Σ') (hdotted : c ≠ 'İ')
    (hfixed : shiftBy lowerRuns c.toNat = c.toNat) : IsSmall c := by
  simp only [IsSmall, lowerChar, if_neg hsigma, if_neg hdotted, hfixed, Char.ofNat_toNat]

/-- `d` is part of the small form of `c`: of one of the two letters with a rule of their own, of a
character that has no other case, or of a letter that a run covers. -/
inductive SmallForm : Char → Char → Prop
  | sigma {d : Char} (hd : d = '\u03c2' ∨ d = '\u03c3') : SmallForm 'Σ' d
  | dotted {d : Char} (hd : d = 'i' ∨ d = '\u0307') : SmallForm 'İ' d
  | same {c : Char} (hc : IsSmall c) : SmallForm c c
  | shifted {c d : Char} {run : CaseRun} (hrun : run ∈ lowerRuns)
      (hcovers : run.covers c.toNat = true) (hd : d.toNat = (c.toNat + run.shift).toNat) :
      SmallForm c d

theorem smallForm_of_mem_lowerChar {final : Bool} {c d : Char} (h : d ∈ lowerChar final c) :
    SmallForm c d := by
  by_cases hsigma : c = 'Σ'
  · subst hsigma
    have hd := List.mem_singleton.mp h
    refine .sigma ?_
    cases final
    · exact .inr hd
    · exact .inl hd
  · by_cases hdotted : c = 'İ'
    · subst hdotted
      exact .dotted (by simpa [lowerChar] using h)
    · simp only [lowerChar, if_neg hsigma, if_neg hdotted, List.mem_singleton] at h
      -- Either no run covers the character, or it moves to where the run leads.
      rcases shiftBy_eq_self_or lowerRuns c.toNat with hself | ⟨run, hmem, hcovers, hshift⟩
      · rw [hself, Char.ofNat_toNat] at h
        subst h
        exact .same (isSmall_of_shiftBy hsigma hdotted hself)
      · refine .shifted hmem hcovers ?_
        rw [h, hshift,
          CaseRun.toNat_ofNat_shift (leadsToLetters_of_mem_lowerRuns run hmem) hcovers]

theorem eq_or_le_of_mem_lowerChar {final : Bool} {c d : Char} (h : d ∈ lowerChar final c) :
    d = c ∨ 0x61 ≤ d.toNat := by
  cases smallForm_of_mem_lowerChar h with
  | sigma hd =>
      right
      rcases hd with rfl | rfl <;> decide
  | dotted hd =>
      right
      rcases hd with rfl | rfl <;> decide
  | same _ => exact .inl rfl
  | @shifted _ _ run hrun hcovers hd =>
      right
      rw [hd]
      exact CaseRun.le_toNat_shift (leadsToLetters_of_mem_lowerRuns run hrun) hcovers

theorem lowerChar_ne_nil (final : Bool) (c : Char) : lowerChar final c ≠ [] := by
  unfold lowerChar
  split
  · simp
  · split <;> simp

theorem lowerChar_singleton_or (final : Bool) (c : Char) :
    (∃ small, lowerChar final c = [small]) ∨ c = 'İ' ∧ lowerChar final c = ['i', '\u0307'] := by
  unfold lowerChar
  by_cases hsigma : c = 'Σ'
  · rw [if_pos hsigma]
    exact .inl ⟨_, rfl⟩
  · rw [if_neg hsigma]
    by_cases hdotted : c = 'İ'
    · rw [if_pos hdotted]
      exact .inr ⟨hdotted, rfl⟩
    · rw [if_neg hdotted]
      exact .inl ⟨_, rfl⟩

theorem count_lowerChar_le {c : Char} (hc : c.toNat < 0x61) (final : Bool) (first : Char) :
    (lowerChar final first).count c ≤ [first].count c := by
  rcases lowerChar_singleton_or final first with ⟨small, hsmall⟩ | ⟨-, hdotted⟩
  · have hcases := @eq_or_le_of_mem_lowerChar final first small (by simp [hsmall])
    rw [hsmall]
    rcases hcases with rfl | hle
    · exact Nat.le_refl _
    · have hne : small ≠ c := by
        rintro rfl
        omega
      simp [hne]
  · have hletter : 'i' ≠ c := by
      rintro rfl
      exact absurd hc (by decide)
    have hdot : '\u0307' ≠ c := by
      rintro rfl
      exact absurd hc (by decide)
    simp [hdotted, hletter, hdot]

/-- A text in small letters has no more ASCII punctuation than the text. -/
theorem count_lower_le {c : Char} (hc : c.toNat < 0x61) (s : String) :
    (lower s).toList.count c ≤ s.toList.count c := by
  have hfrom : ∀ (after : Bool) (cs : List Char), (lowerFrom after cs).count c ≤ cs.count c := by
    intro after cs
    induction cs generalizing after with
    | nil => exact Nat.le_refl _
    | cons first rest ih =>
        rw [lowerFrom, List.count_append, ← List.singleton_append, List.count_append]
        exact Nat.add_le_add (count_lowerChar_le hc _ first) (ih _)
  rw [lower, String.toList_ofList]
  exact hfrom false s.toList

theorem mem_of_mem_lower {s : String} {c : Char} (hc : c.toNat < 0x61)
    (h : c ∈ (lower s).toList) : c ∈ s.toList :=
  List.count_pos_iff.mp (Nat.lt_of_lt_of_le (List.count_pos_iff.mpr h) (count_lower_le hc s))

theorem lowerFrom_ne_nil {after : Bool} {cs : List Char} (h : cs ≠ []) :
    lowerFrom after cs ≠ [] := by
  cases cs with
  | nil => exact absurd rfl h
  | cons c rest =>
      rw [lowerFrom]
      exact List.append_ne_nil_of_left_ne_nil (lowerChar_ne_nil _ c) _

theorem lower_ne_empty {s : String} (h : s ≠ "") : lower s ≠ "" := by
  have hs : s.toList ≠ [] := fun hnil => h (String.toList_eq_nil_iff.mp hnil)
  intro hempty
  have hchars : (lower s).toList = [] := String.toList_eq_nil_iff.mpr hempty
  rw [lower, String.toList_ofList] at hchars
  exact lowerFrom_ne_nil hs hchars

/-! ## Words in ASCII letters -/

theorem lowerChar_of_ascii {c : Char} (final : Bool) (h : c.toNat < 0x80) :
    lowerChar final c = [c.toLower] := by
  have hall : ∀ n < 0x80, ∀ final, lowerChar final (Char.ofNat n) = [(Char.ofNat n).toLower] := by
    decide +kernel
  simpa only [Char.ofNat_toNat] using hall c.toNat h final

/-- The run does not lead from outside ASCII into it, unless to the letter k. -/
def CaseRun.keepsOutOfAscii (run : CaseRun) : Bool :=
  run.last < 0x80 || 0x80 ≤ run.first + run.shift ||
    (run.first == run.last && run.first + run.shift == 'k'.toNat)

theorem keepsOutOfAscii_of_mem_lowerRuns : ∀ run ∈ lowerRuns, run.keepsOutOfAscii = true := by
  decide +kernel

/-- ASCII letters are the small forms of ASCII letters, of the dotted capital I and, for the letter
k, of the sign for kelvin. -/
theorem lt_or_eq_of_mem_lowerChar {final : Bool} {c d : Char} (h : d ∈ lowerChar final c)
    (hd : d.toNat < 0x80) (hk : d ≠ 'k') : c.toNat < 0x80 ∨ c = 'İ' := by
  cases smallForm_of_mem_lowerChar h with
  | sigma hletter => rcases hletter with rfl | rfl <;> exact absurd hd (by decide)
  | dotted _ => exact .inr rfl
  | same _ => exact .inl hd
  | @shifted _ _ run hmem hcovers hvalue =>
      left
      have hvalue_ne : d.toNat ≠ 'k'.toNat := fun heq => hk (Char.toNat_inj.mp heq)
      have hrun := keepsOutOfAscii_of_mem_lowerRuns run hmem
      simp only [CaseRun.keepsOutOfAscii, Bool.or_eq_true, Bool.and_eq_true, decide_eq_true_eq,
        beq_iff_eq] at hrun
      simp only [CaseRun.covers, Bool.and_eq_true, decide_eq_true_eq] at hcovers
      omega

theorem exists_lowerFrom_append (after : Bool) (front rest : List Char) :
    ∃ lowered next, lowerFrom after (front ++ rest) = lowered ++ lowerFrom next rest := by
  induction front generalizing after with
  | nil => exact ⟨[], after, rfl⟩
  | cons c front ih =>
      obtain ⟨lowered, next, hlowered⟩ := ih (if isTransparent c then after else isCased c)
      refine ⟨lowerChar (after && !startsCased (front ++ rest)) c ++ lowered, next, ?_⟩
      rw [List.cons_append, lowerFrom, hlowered, List.append_assoc]

theorem exists_lowerFrom_ascii_append (after : Bool) {word : List Char} (rest : List Char)
    (h : ∀ c ∈ word, c.toNat < 0x80) :
    ∃ next, lowerFrom after (word ++ rest) = word.map Char.toLower ++ lowerFrom next rest := by
  induction word generalizing after with
  | nil => exact ⟨after, rfl⟩
  | cons c word ih =>
      rw [List.forall_mem_cons] at h
      obtain ⟨next, hnext⟩ := ih (if isTransparent c then after else isCased c) h.2
      refine ⟨next, ?_⟩
      rw [List.cons_append, lowerFrom, lowerChar_of_ascii _ h.1, hnext]
      rfl

theorem toNat_lt_of_toLower_lt {c : Char} (h : c.toLower.toNat < 0x80) : c.toNat < 0x80 := by
  unfold Char.toLower at h
  split at h
  · next hupper =>
      have hle : c.val.toNat ≤ 90 := UInt32.le_iff_toNat_le.mp hupper.2
      change c.val.toNat < 0x80
      omega
  · exact h

theorem forall_ascii_of_map_toLower {cs word : List Char} (h : cs.map Char.toLower = word)
    (hword : ∀ c ∈ word, c.toNat < 0x80) : ∀ c ∈ cs, c.toNat < 0x80 := by
  intro c hc
  exact toNat_lt_of_toLower_lt (hword _ (h ▸ List.mem_map_of_mem hc))

/-- What stands around a word does not change its small letters. -/
theorem map_toLower_infix_lower {s : String} {word : List Char} (h : word <:+: s.toList)
    (hword : ∀ c ∈ word, c.toNat < 0x80) : word.map Char.toLower <:+: (lower s).toList := by
  obtain ⟨front, rest, hs⟩ := h
  obtain ⟨lowered, next, hfront⟩ := exists_lowerFrom_append false front (word ++ rest)
  obtain ⟨last, hlower⟩ := exists_lowerFrom_ascii_append next rest hword
  refine ⟨lowered, lowerFrom last rest, ?_⟩
  rw [lower, String.toList_ofList, ← hs, List.append_assoc front, hfront, hlower,
    List.append_assoc]

section

variable {after : Bool} {cs word : List Char} (hword : ∀ c ∈ word, c.toNat < 0x80 ∧ c ≠ 'k')

include hword

/-- A word that starts a text in small letters starts the text, if it does not end where the dot of
a dotted capital I follows. -/
theorem exists_prefix_of_prefix_lowerFrom (hlast : word.getLast? ≠ some 'i')
    (h : word <+: lowerFrom after cs) :
    ∃ front, front <+: cs ∧ front.map Char.toLower = word := by
  induction word generalizing after cs with
  | nil => exact ⟨[], List.nil_prefix, rfl⟩
  | cons letter word ih =>
      rw [List.forall_mem_cons] at hword
      cases cs with
      | nil => simp [lowerFrom] at h
      | cons c rest =>
          rw [lowerFrom] at h
          rcases lowerChar_singleton_or (after && !startsCased rest) c with
            ⟨small, hsmall⟩ | ⟨-, hdotted⟩
          · have hc : c ≠ 'İ' := by
              rintro rfl
              simp [lowerChar] at hsmall
            rw [hsmall, List.singleton_append, List.cons_prefix_cons] at h
            obtain ⟨rfl, h⟩ := h
            have hmem : letter ∈ lowerChar (after && !startsCased rest) c := by
              rw [hsmall]
              exact List.mem_singleton_self letter
            have hascii : c.toNat < 0x80 :=
              (lt_or_eq_of_mem_lowerChar hmem hword.1.1 hword.1.2).resolve_right hc
            have hlast' : word.getLast? ≠ some 'i' := by
              cases word with
              | nil => simp
              | cons next word => simpa using hlast
            obtain ⟨front, hfront, hlower⟩ := ih hword.2 hlast' h
            refine ⟨c :: front, List.cons_prefix_cons.mpr ⟨rfl, hfront⟩, ?_⟩
            rw [lowerChar_of_ascii _ hascii] at hsmall
            rw [List.map_cons, hlower, List.singleton_inj.mp hsmall]
          · rw [hdotted, List.cons_append, List.cons_prefix_cons] at h
            obtain ⟨rfl, h⟩ := h
            -- After the i comes a dot, so the word can neither end here nor go on.
            cases word with
            | nil => exact absurd rfl hlast
            | cons next word =>
                rw [List.singleton_append, List.cons_prefix_cons] at h
                have hnext := (hword.2 next List.mem_cons_self).1
                rw [h.1] at hnext
                exact absurd hnext (by decide)

theorem exists_infix_of_infix_lowerFrom (hlast : word.getLast? ≠ some 'i')
    (h : word <:+: lowerFrom after cs) :
    ∃ part, part <:+: cs ∧ part.map Char.toLower = word := by
  induction cs generalizing after with
  | nil =>
      rw [lowerFrom, List.infix_nil] at h
      exact ⟨[], List.nil_infix, h.symm⟩
  | cons c rest ih =>
      have hstart : word <+: lowerFrom after (c :: rest) →
          ∃ part, part <:+: c :: rest ∧ part.map Char.toLower = word := by
        intro hprefix
        obtain ⟨front, hfront, hlower⟩ := exists_prefix_of_prefix_lowerFrom hword hlast hprefix
        exact ⟨front, hfront.isInfix, hlower⟩
      have hlater : word <:+: lowerFrom (if isTransparent c then after else isCased c) rest →
          ∃ part, part <:+: c :: rest ∧ part.map Char.toLower = word := by
        intro hinfix
        obtain ⟨part, hpart, hlower⟩ := ih hinfix
        exact ⟨part, hpart.trans (List.suffix_cons c rest).isInfix, hlower⟩
      rcases lowerChar_singleton_or (after && !startsCased rest) c with
        ⟨small, hsmall⟩ | ⟨-, hdotted⟩
      · rw [lowerFrom, hsmall, List.singleton_append] at h hstart
        exact (List.infix_cons_iff.mp h).elim hstart hlater
      · rw [lowerFrom, hdotted] at h hstart
        rcases List.infix_cons_iff.mp h with h | h
        · exact hstart h
        · rcases List.infix_cons_iff.mp h with h | h
          · rcases List.prefix_cons_iff.mp h with rfl | ⟨rest, rfl, -⟩
            · exact ⟨[], List.nil_infix, rfl⟩
            · exact absurd (hword _ List.mem_cons_self).1 (by decide)
          · exact hlater h

end

/-- A text in small letters has a word in ASCII letters where the text has it. -/
theorem infix_lower_iff {s : String} {word : List Char}
    (hword : ∀ c ∈ word, c.toNat < 0x80 ∧ c ≠ 'k') (hlast : word.getLast? ≠ some 'i') :
    word <:+: (lower s).toList ↔ ∃ part, part <:+: s.toList ∧ part.map Char.toLower = word := by
  constructor
  · intro h
    rw [lower, String.toList_ofList] at h
    exact exists_infix_of_infix_lowerFrom hword hlast h
  · rintro ⟨part, hpart, rfl⟩
    have hascii := forall_ascii_of_map_toLower rfl fun c hc => (hword c hc).1
    exact map_toLower_infix_lower hpart hascii

end Text

/-! ## Identifiers -/

namespace Name

theorem mem_of_mem_breakWords {cs : List Char} {c : Char} (h : c ∈ breakWords cs) :
    c = '_' ∨ c ∈ cs := by
  fun_induction breakWords cs with
  | case1 => exact .inr h
  | case2 first => exact .inr h
  | case3 first second rest hbreak ih =>
      simp only [List.mem_cons] at h ih ⊢
      rcases h with h | h | h
      · exact .inr (.inl h)
      · exact .inl h
      · exact (ih h).imp_right .inr
  | case4 first second rest hbreak ih =>
      rcases List.mem_cons.mp h with h | h
      · exact .inr (List.mem_cons.mpr (.inl h))
      · exact (ih h).imp_right (List.mem_cons_of_mem first)

theorem breakWords_ne_nil {cs : List Char} (h : cs ≠ []) : breakWords cs ≠ [] := by
  fun_cases breakWords cs with
  | case1 => exact absurd rfl h
  | case2 => simp
  | case3 => simp
  | case4 => simp

theorem mem_of_mem_collapseFrom {inRun : Bool} {cs : List Char} {c : Char}
    (h : c ∈ collapseFrom inRun cs) : c = '_' ∨ c ∈ cs := by
  induction cs generalizing inRun with
  | nil => simp [collapseFrom] at h
  | cons first rest ih =>
      have hrest : ∀ {inRun}, c ∈ collapseFrom inRun rest → c = '_' ∨ c ∈ first :: rest :=
        fun hmem => (ih hmem).imp_right (List.mem_cons_of_mem first)
      rw [collapseFrom] at h
      split at h
      · split at h
        · exact hrest h
        · rcases List.mem_cons.mp h with h | h
          · exact .inl h
          · exact hrest h
      · rcases List.mem_cons.mp h with h | h
        · exact .inr (List.mem_cons.mpr (.inl h))
        · exact hrest h

theorem collapseFrom_false_ne_nil {cs : List Char} (h : cs ≠ []) : collapseFrom false cs ≠ [] := by
  cases cs with
  | nil => exact absurd rfl h
  | cons c rest =>
      rw [collapseFrom]
      split <;> simp

theorem mem_of_mem_identifier {s : String} {c : Char} (hc : c.toNat < 0x61)
    (hunderscore : c ≠ '_') (h : c ∈ (identifier s).toList) : c ∈ s.toList := by
  have hcollapsed := Text.mem_of_mem_lower hc h
  rw [String.toList_ofList] at hcollapsed
  have hbroken := (mem_of_mem_collapseFrom hcollapsed).resolve_left hunderscore
  exact (mem_of_mem_breakWords hbroken).resolve_left hunderscore

theorem identifier_ne_empty {s : String} (h : s ≠ "") : identifier s ≠ "" := by
  have hs : s.toList ≠ [] := fun hnil => h (String.toList_eq_nil_iff.mp hnil)
  have hcollapsed : collapseFrom false (breakWords s.toList) ≠ [] :=
    collapseFrom_false_ne_nil (breakWords_ne_nil hs)
  refine Text.lower_ne_empty fun hempty => hcollapsed ?_
  rw [← String.toList_eq_nil_iff, String.toList_ofList] at hempty
  exact hempty

end Name

end EntityDiagram
