import EntityDiagram.Text.Blank
import Mathlib.Data.List.TakeWhile

/-! # Spans of characters and trimming

Readers cut a line where a class of characters stops. These are the facts about such cuts and about
taking blanks off both ends that the readers of a line rest on.
-/

namespace EntityDiagram.Text

section Spans

variable {p : Char → Bool} {xs ys : List Char}

theorem takeWhile_append_stop (hall : ∀ c ∈ xs, p c = true) (hstop : ∀ c ∈ ys.head?, p c = false) :
    (xs ++ ys).takeWhile p = xs := by
  rw [List.takeWhile_append_of_pos hall]
  cases ys with
  | nil => simp
  | cons c ys =>
      have hc : p c = false := hstop c rfl
      simp [hc]

theorem dropWhile_append_stop (hall : ∀ c ∈ xs, p c = true) (hstop : ∀ c ∈ ys.head?, p c = false) :
    (xs ++ ys).dropWhile p = ys := by
  rw [List.dropWhile_append_of_pos hall]
  cases ys with
  | nil => rfl
  | cons c ys =>
      have hc : p c = false := hstop c rfl
      simp [hc]

theorem stop_cons {c : Char} (h : p c = false) (rest : List Char) :
    ∀ d ∈ (c :: rest).head?, p d = false := by
  intro d hd
  rwa [← Option.some.inj hd]

theorem dropWhile_of_head (hstop : ∀ c ∈ ys.head?, p c = false) : ys.dropWhile p = ys := by
  have hnone : ∀ c ∈ ([] : List Char), p c = true := by simp
  exact dropWhile_append_stop hnone hstop

/-- What is left after a span does not go on with it. -/
theorem head?_dropWhile (cs : List Char) : ∀ c ∈ (cs.dropWhile p).head?, p c = false := by
  intro c hc
  have h := List.head?_dropWhile_not p cs
  rw [Option.mem_def.mp hc] at h
  simpa using h

theorem dropEnd_append_of_all (hall : ∀ c ∈ ys, p c = true) :
    dropEnd p (xs ++ ys) = dropEnd p xs := by
  have hrev : ∀ c ∈ ys.reverse, p c = true := fun c hc => hall c (List.mem_reverse.mp hc)
  simp only [dropEnd, List.reverse_append, List.dropWhile_append_of_pos hrev]

theorem dropEnd_of_last (hlast : ∀ c ∈ xs.getLast?, p c = false) : dropEnd p xs = xs := by
  have hhead : ∀ c ∈ xs.reverse.head?, p c = false := by
    intro c hc
    exact hlast c (by simpa using hc)
  simp [dropEnd, dropWhile_of_head hhead]

/-- Dropping from the end cuts a span off. -/
theorem exists_dropEnd (p : Char → Bool) (cs : List Char) :
    ∃ after, (∀ c ∈ after, p c = true) ∧ cs = dropEnd p cs ++ after := by
  refine ⟨(cs.reverse.takeWhile p).reverse, ?_, ?_⟩
  · intro c hc
    exact List.mem_takeWhile_imp (List.mem_reverse.mp hc)
  · rw [dropEnd, ← List.reverse_append, List.takeWhile_append_dropWhile, List.reverse_reverse]

theorem mem_of_mem_dropEnd {c : Char} (h : c ∈ dropEnd p xs) : c ∈ xs := by
  obtain ⟨after, -, hxs⟩ := exists_dropEnd p xs
  rw [hxs]
  exact List.mem_append_left after h

theorem mem_dropEnd_of_mem {c : Char} (h : c ∈ xs) (hc : p c = false) : c ∈ dropEnd p xs := by
  obtain ⟨after, hafter, hxs⟩ := exists_dropEnd p xs
  rw [hxs, List.mem_append] at h
  rcases h with h | h
  · exact h
  · exact absurd (hafter c h) (by simp [hc])

/-- What the end that is cut off does not reach stays as it is. -/
theorem dropEnd_append_of_mem {c : Char} (hc : c ∈ ys) (hstop : p c = false) :
    dropEnd p (xs ++ ys) = xs ++ dropEnd p ys := by
  have hne : ys.reverse.dropWhile p ≠ [] := by
    intro hnil
    have hall := List.dropWhile_eq_nil_iff.mp hnil c (List.mem_reverse.mpr hc)
    rw [hstop] at hall
    contradiction
  have hempty : (ys.reverse.dropWhile p).isEmpty = false := by simpa using hne
  rw [dropEnd, List.reverse_append, List.dropWhile_append, hempty]
  simp [dropEnd]

/-- A text is cut in only one way into a span and what does not go on with it. -/
theorem append_inj_of_stop {xs' ys' : List Char} (hall : ∀ c ∈ xs, p c = true)
    (hall' : ∀ c ∈ xs', p c = true) (hstop : ∀ c ∈ ys.head?, p c = false)
    (hstop' : ∀ c ∈ ys'.head?, p c = false) (h : xs ++ ys = xs' ++ ys') : xs = xs' ∧ ys = ys' := by
  have htake := congrArg (List.takeWhile p) h
  have hdrop := congrArg (List.dropWhile p) h
  rw [takeWhile_append_stop hall hstop, takeWhile_append_stop hall' hstop'] at htake
  rw [dropWhile_append_stop hall hstop, dropWhile_append_stop hall' hstop'] at hdrop
  exact ⟨htake, hdrop⟩

end Spans

/-! ## Cutting at a character -/

theorem splitOn_cons_self (mark : Char) (cs : List Char) :
    (mark :: cs).splitOn mark = [] :: cs.splitOn mark :=
  List.splitOn_append_cons_self [] cs

theorem splitOn_cons_of_ne {mark c : Char} (h : c ≠ mark) (cs : List Char) :
    (c :: cs).splitOn mark = (cs.splitOn mark).modifyHead (c :: ·) := by
  rw [List.splitOn_eq_splitOnP, List.splitOnP_cons_eq_if_modifyHead, if_neg (by simpa using h),
    ← List.splitOn_eq_splitOnP]

/-- A run of blanks. -/
abbrev Blanks := { cs : List Char // ∀ c ∈ cs, isBlank c = true }

/-- A run of one blank or more. -/
abbrev Gap := { cs : List Char // cs ≠ [] ∧ ∀ c ∈ cs, isBlank c = true }

def noBlanks : Blanks := ⟨[], List.forall_mem_nil _⟩

def space : Gap := ⟨[' '], List.cons_ne_nil _ _, List.forall_mem_singleton.mpr (by decide)⟩

/-! ## Trimming -/

section Trimming

variable {before after cs : List Char}

/-- Text that starts and ends with no blank is trimmed already. -/
theorem trim_eq_self (hhead : ∀ c ∈ cs.head?, isBlank c = false)
    (hlast : ∀ c ∈ cs.getLast?, isBlank c = false) : trim cs = cs := by
  rw [trim, stripWhile, dropWhile_of_head hhead, dropEnd_of_last hlast]

/-- Blanks around a text that starts and ends with none are taken off. -/
theorem trim_padded (hbefore : ∀ c ∈ before, isBlank c = true)
    (hafter : ∀ c ∈ after, isBlank c = true) (hhead : ∀ c ∈ cs.head?, isBlank c = false)
    (hlast : ∀ c ∈ cs.getLast?, isBlank c = false) : trim (before ++ cs ++ after) = cs := by
  rw [trim, stripWhile, List.append_assoc, List.dropWhile_append_of_pos hbefore]
  cases cs with
  | nil =>
      have hnil : after.dropWhile isBlank = [] := List.dropWhile_eq_nil_iff.mpr hafter
      simp [hnil, dropEnd]
  | cons c cs =>
      have hc : isBlank c = false := hhead c rfl
      rw [dropWhile_of_head (by simpa using hc), dropEnd_append_of_all hafter,
        dropEnd_of_last hlast]

/-- A text is its trimmed form with blanks around it. -/
theorem exists_trim (cs : List Char) :
    ∃ before after, (∀ c ∈ before, isBlank c = true) ∧ (∀ c ∈ after, isBlank c = true) ∧
      cs = before ++ trim cs ++ after := by
  obtain ⟨after, hafter, hcs⟩ := exists_dropEnd isBlank (cs.dropWhile isBlank)
  refine ⟨cs.takeWhile isBlank, after, fun c hc => List.mem_takeWhile_imp hc, hafter, ?_⟩
  rw [trim, stripWhile, List.append_assoc, ← hcs, List.takeWhile_append_dropWhile]

theorem head?_trim_not_blank (cs : List Char) : ∀ c ∈ (trim cs).head?, isBlank c = false := by
  intro c hc
  obtain ⟨after, -, hcs⟩ := exists_dropEnd isBlank (cs.dropWhile isBlank)
  have hhead : (dropEnd isBlank (cs.dropWhile isBlank)).head? = some c := hc
  apply head?_dropWhile cs c
  rw [hcs, List.head?_append, hhead]
  rfl

theorem getLast?_trim_not_blank (cs : List Char) :
    ∀ c ∈ (trim cs).getLast?, isBlank c = false := by
  intro c hc
  apply head?_dropWhile (cs.dropWhile isBlank).reverse c
  rwa [trim, stripWhile, dropEnd, List.getLast?_reverse] at hc

@[simp] theorem trim_trim (cs : List Char) : trim (trim cs) = trim cs :=
  trim_eq_self (head?_trim_not_blank cs) (getLast?_trim_not_blank cs)

theorem mem_of_mem_trim {cs : List Char} {c : Char} (h : c ∈ trim cs) : c ∈ cs := by
  obtain ⟨before, after, -, -, hcs⟩ := exists_trim cs
  rw [hcs]
  exact List.mem_append_left after (List.mem_append_right before h)

theorem trim_append_blanks (hafter : ∀ c ∈ after, isBlank c = true) :
    trim (cs ++ after) = trim cs := by
  rw [trim, trim, stripWhile, stripWhile, List.dropWhile_append]
  split
  · next hempty =>
      have hnil : cs.dropWhile isBlank = [] := List.isEmpty_iff.mp hempty
      rw [hnil, List.dropWhile_eq_nil_iff.mpr hafter]
  · rw [dropEnd_append_of_all hafter]

theorem trim_blanks_append (hbefore : ∀ c ∈ before, isBlank c = true) :
    trim (before ++ cs) = trim cs := by
  rw [trim, trim, stripWhile, stripWhile, List.dropWhile_append_of_pos hbefore]

theorem trim_dropEnd (cs : List Char) : trim (dropEnd isBlank cs) = trim cs := by
  obtain ⟨after, hafter, hcs⟩ := exists_dropEnd isBlank cs
  calc
    trim (dropEnd isBlank cs) = trim (dropEnd isBlank cs ++ after) :=
      (trim_append_blanks hafter).symm
    _ = trim cs := by rw [← hcs]

theorem mem_trim_of_mem {cs : List Char} {c : Char} (h : c ∈ cs) (hc : isBlank c = false) :
    c ∈ trim cs := by
  obtain ⟨before, after, hbefore, hafter, hcs⟩ := exists_trim cs
  rw [hcs, List.mem_append, List.mem_append] at h
  rcases h with (h | h) | h
  · exact absurd (hbefore c h) (by simp [hc])
  · exact h
  · exact absurd (hafter c h) (by simp [hc])

end Trimming

end EntityDiagram.Text
