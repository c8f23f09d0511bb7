import EntityDiagram.Proofs.Reading.Step
import Mathlib.Data.List.Induction

/-! # Lines that can be put in anywhere

Blank lines, remarks and directions mean nothing wherever they stand; a header means nothing after
the first one, and other lines mean nothing before it. Putting such a line in moves the lines after
it by one, and that is all that can be seen: the numbers of later messages grow by one.
-/

namespace EntityDiagram

open Line

/-! ## Renumbering -/

namespace NumberedLine

def renumber (f : Nat → Nat) (line : NumberedLine) : NumberedLine :=
  { line with number := f line.number }

end NumberedLine

namespace Reading

def renumber (f : Nat → Nat) (reading : Reading) : Reading :=
  { reading with
    rejected := reading.rejected.map (·.renumber f)
    ignored := reading.ignored.map (·.renumber f) }

theorem rejected_renumber (f : Nat → Nat) (reading : Reading) :
    (reading.renumber f).rejected = reading.rejected.map (·.renumber f) := rfl

theorem close_renumber (f : Nat → Nat) (reading : Reading) :
    (reading.renumber f).close = reading.close.renumber f := by
  obtain ⟨place, entities, relationships, rejected, ignored⟩ := reading
  cases place <;> rfl

theorem schema_renumber (f : Nat → Nat) (reading : Reading) :
    (reading.renumber f).schema = reading.schema := by
  rw [schema, close_renumber]
  rfl

theorem stepInBlock_renumber (f : Nat → Nat) (reading : Reading) (entity : Entity)
    (line : NumberedLine) :
    (reading.renumber f).stepInBlock entity (line.renumber f) =
      (reading.stepInBlock entity line).renumber f := by
  have htext : (line.renumber f).text = line.text := rfl
  unfold stepInBlock
  rw [htext]
  cases attribute? line.text.toList with
  | some attr => rfl
  | none => simp [renumber]

theorem stepTopLevel_renumber (f : Nat → Nat) (reading : Reading) (line : NumberedLine)
    (form : Form) :
    (reading.renumber f).stepTopLevel (line.renumber f) form =
      (reading.stepTopLevel line form).renumber f := by
  cases form with
  | unknown => simp [stepTopLevel, renumber]
  | _ => rfl

/-- No step looks at the number of its line. -/
theorem step_renumber (f : Nat → Nat) (reading : Reading) (line : NumberedLine) :
    (reading.renumber f).step (line.renumber f) = (reading.step line).renumber f := by
  have htext : (line.renumber f).text = line.text := rfl
  have hplace : (reading.renumber f).place = reading.place := rfl
  have hclose := close_renumber f reading
  have hblock := fun entity => stepInBlock_renumber f reading entity line
  have htop := fun form => stepTopLevel_renumber f reading line form
  unfold step
  rw [htext, hplace]
  split
  · rfl
  · rfl
  · rfl
  · rfl
  · rfl
  · exact hclose
  · exact hblock _
  · exact htop _

theorem foldl_step_renumber (f : Nat → Nat) (reading : Reading) (lines : List NumberedLine) :
    (lines.map (·.renumber f)).foldl step (reading.renumber f) =
      (lines.foldl step reading).renumber f := by
  induction lines generalizing reading with
  | nil => rfl
  | cons line lines ih => rw [List.map_cons, List.foldl_cons, step_renumber, ih, List.foldl_cons]

theorem run_renumber (f : Nat → Nat) (lines : List NumberedLine) :
    run (lines.map (·.renumber f)) = (run lines).renumber f :=
  foldl_step_renumber f {} lines

/-- A line that changes nothing where it is put in only moves the lines after it. -/
theorem run_insert {f : Nat → Nat} {before after : List NumberedLine} {line : NumberedLine}
    (hbefore : before.map (·.renumber f) = before) (hline : (run before).step line = run before) :
    run (before ++ line :: after.map (·.renumber f)) = (run (before ++ after)).renumber f := by
  calc
    run (before ++ line :: after.map (·.renumber f))
      = (after.map (·.renumber f)).foldl step ((run before).step line) := by
        rw [run, List.foldl_append, List.foldl_cons, run]
    _ = (after.map (·.renumber f)).foldl step (run (before.map (·.renumber f))) := by
        rw [hline, hbefore]
    _ = (after.foldl step (run before)).renumber f := by
        rw [run_renumber, foldl_step_renumber]
    _ = (run (before ++ after)).renumber f := by
        rw [run, run, List.foldl_append]

/-! ## Lines that change nothing -/

theorem place_effect_ne_beforeHeader {reading next : Reading} {line : NumberedLine}
    (h : reading.place ≠ .beforeHeader) (heffect : Effect reading line next) :
    next.place ≠ .beforeHeader := by
  cases heffect with
  | close =>
      unfold close
      cases hplace : reading.place with
      | beforeHeader => exact absurd hplace h
      | topLevel => simp [hplace]
      | inBlock entity => simp
  | skip => exact h
  | start _ => simp
  | append _ _ => simp
  | reject _ _ => exact h
  | opening _ _ => simp
  | relationship _ _ => exact h
  | mention _ _ => exact h
  | ignore _ => exact h

theorem place_step_eq_beforeHeader_iff {reading : Reading} {line : NumberedLine} :
    (reading.step line).place = .beforeHeader ↔
      reading.place = .beforeHeader ∧ classify line.text.toList ≠ .header := by
  by_cases hplace : reading.place = .beforeHeader
  · by_cases hheader : classify line.text.toList = .header
    · simp [step, hplace, hheader]
    · rw [step_of_beforeHeader hplace hheader]
      simp [hplace, hheader]
  · have hnext := place_effect_ne_beforeHeader hplace (step_effect reading line)
    simp [hplace, hnext]

/-- Reading stands before the header as long as no line is one. -/
theorem place_run_eq_beforeHeader_iff {lines : List NumberedLine} :
    (run lines).place = .beforeHeader ↔
      ∀ line ∈ lines, classify line.text.toList ≠ .header := by
  induction lines using List.reverseRecOn with
  | nil => simp [run]
  | append_singleton lines line ih =>
      have hstep : run (lines ++ [line]) = (run lines).step line := by simp [run]
      rw [hstep, place_step_eq_beforeHeader_iff, ih, List.forall_mem_append,
        List.forall_mem_singleton]

/-! ## Numbered lines -/

/-- Lines without the blanks around them, with the numbers after `start`. -/
def numberedFrom (start : Nat) : List (List Char) → List NumberedLine
  | [] => []
  | line :: lines => ⟨start + 1, String.ofList (Text.trim line)⟩ :: numberedFrom (start + 1) lines

theorem mapIdx_eq_numberedFrom (start : Nat) (lines : List (List Char)) :
    (lines.mapIdx fun index line => NumberedLine.mk (start + index + 1)
      (String.ofList (Text.trim line))) = numberedFrom start lines := by
  induction lines generalizing start with
  | nil => rfl
  | cons line lines ih =>
      have hshift : ∀ index, start + (index + 1) + 1 = start + 1 + index + 1 := by omega
      simp only [List.mapIdx_cons, numberedFrom, hshift, ih (start + 1), Nat.add_zero]

theorem linesOf_eq_numberedFrom (text : String) :
    linesOf text = numberedFrom 0 (text.toList.splitOn '\n') := by
  rw [← mapIdx_eq_numberedFrom]
  simp only [linesOf, Nat.zero_add]

theorem numberedFrom_append (start : Nat) (lines more : List (List Char)) :
    numberedFrom start (lines ++ more) =
      numberedFrom start lines ++ numberedFrom (start + lines.length) more := by
  induction lines generalizing start with
  | nil => rfl
  | cons line lines ih =>
      have hshift : start + 1 + lines.length = start + (line :: lines).length := by
        rw [List.length_cons]
        omega
      rw [List.cons_append, numberedFrom, ih, hshift, numberedFrom, List.cons_append]

/-- The number of a line once another is put in after the first `place` lines. -/
def shifted (place number : Nat) : Nat := if place < number then number + 1 else number

theorem renumber_numberedFrom_of_le {place start : Nat} (h : place ≤ start)
    (lines : List (List Char)) :
    (numberedFrom start lines).map (·.renumber (shifted place)) =
      numberedFrom (start + 1) lines := by
  induction lines generalizing start with
  | nil => rfl
  | cons line lines ih =>
      have hmoved : shifted place (start + 1) = start + 1 + 1 := by
        rw [shifted, if_pos (by omega)]
      rw [numberedFrom, List.map_cons, ih (by omega), NumberedLine.renumber, hmoved, numberedFrom]

theorem renumber_numberedFrom_of_length_le {place start : Nat} {lines : List (List Char)}
    (h : start + lines.length ≤ place) :
    (numberedFrom start lines).map (·.renumber (shifted place)) = numberedFrom start lines := by
  induction lines generalizing start with
  | nil => rfl
  | cons line lines ih =>
      rw [List.length_cons] at h
      have hkept : shifted place (start + 1) = start + 1 := by
        rw [shifted, if_neg (by omega)]
      rw [numberedFrom, List.map_cons, ih (by omega), NumberedLine.renumber, hkept]

theorem forall_mem_numberedFrom {start : Nat} {lines : List (List Char)} {p : List Char → Prop} :
    (∀ line ∈ numberedFrom start lines, p line.text.toList) ↔
      ∀ line ∈ lines, p (Text.trim line) := by
  induction lines generalizing start with
  | nil => simp [numberedFrom]
  | cons line lines ih =>
      rw [numberedFrom, List.forall_mem_cons, List.forall_mem_cons, ih, String.toList_ofList]

/-! ## Putting a line into a text -/

/-- The text that has the given lines. -/
def textOf (lines : List (List Char)) : String := String.ofList (['\n'].intercalate lines)

theorem ofText_textOf {lines : List (List Char)} (h : ∀ line ∈ lines, '\n' ∉ line) :
    ofText (textOf lines) = run (numberedFrom 0 lines) := by
  rw [ofText, linesOf_eq_numberedFrom, textOf, String.toList_ofList]
  by_cases hempty : lines = []
  · -- The empty text has one line, which is blank.
    subst hempty
    decide
  · rw [List.splitOn_intercalate '\n' h hempty]

/-- A line that means nothing after the lines `before`. -/
inductive IsIdleAfter (before : List (List Char)) (line : List Char) : Prop where
  | blank (h : ∀ c ∈ line, Text.isBlank c = true)
  | remark (h : isRemark line = true)
  | direction (h : isDirection line = true)
  | header (h : isHeader line = true) (hbefore : ∃ earlier ∈ before, isHeader earlier = true)
  | preamble (h : isHeader line = false) (hbefore : ∀ earlier ∈ before, isHeader earlier = false)

theorem place_run_numberedFrom_eq_beforeHeader_iff {start : Nat} {lines : List (List Char)} :
    (run (numberedFrom start lines)).place = .beforeHeader ↔
      ∀ line ∈ lines, isHeader line = false := by
  have htexts := @forall_mem_numberedFrom start lines (fun cs => classify cs ≠ .header)
  rw [place_run_eq_beforeHeader_iff, htexts]
  simp only [ne_eq, classify_eq_header_iff, isHeader_trim, Bool.not_eq_true]

theorem step_of_isIdleAfter {before : List (List Char)} {line : List Char} {start number : Nat}
    (h : IsIdleAfter before line) :
    (run (numberedFrom start before)).step ⟨number, String.ofList (Text.trim line)⟩ =
      run (numberedFrom start before) := by
  have htext : (String.ofList (Text.trim line)).toList = Text.trim line := String.toList_ofList
  have hplace := @place_run_numberedFrom_eq_beforeHeader_iff start before
  cases h with
  | blank h =>
      have hblank : (Text.trim line).all Text.isBlank = true :=
        List.all_eq_true.mpr fun c hc => h c (Text.mem_of_mem_trim hc)
      apply step_of_empty_or_direction
      rw [htext, classify, if_pos (by rw [hblank, Bool.true_or])]
      exact .inl rfl
  | remark h =>
      apply step_of_empty_or_direction
      rw [htext, classify, if_pos (by rw [isRemark_trim h, Bool.or_true])]
      exact .inl rfl
  | direction h =>
      apply step_of_empty_or_direction
      rw [htext]
      exact .inr (classify_of_isDirection ((isDirection_trim line).trans h))
  | header h hbefore =>
      obtain ⟨earlier, hmem, hearlier⟩ := hbefore
      apply step_of_header
      · intro hbeforeHeader
        rw [hplace.mp hbeforeHeader earlier hmem] at hearlier
        contradiction
      · rw [htext, classify_eq_header_iff, isHeader_trim, h]
  | preamble h hbefore =>
      apply step_of_beforeHeader (hplace.mpr hbefore)
      rw [htext, ne_eq, classify_eq_header_iff, isHeader_trim, h]
      decide

theorem ofText_insert {before after : List (List Char)} {line : List Char}
    (hlines : ∀ other ∈ before ++ line :: after, '\n' ∉ other)
    (hidle : IsIdleAfter before line) :
    ofText (textOf (before ++ line :: after)) =
      (ofText (textOf (before ++ after))).renumber (shifted before.length) := by
  have hold : ∀ other ∈ before ++ after, '\n' ∉ other := by
    intro other hmem
    apply hlines
    rw [List.mem_append] at hmem ⊢
    exact hmem.imp_right (List.mem_cons_of_mem line)
  have hmoved : numberedFrom (before.length + 1) after =
      (numberedFrom before.length after).map (·.renumber (shifted before.length)) :=
    (renumber_numberedFrom_of_le (Nat.le_refl _) after).symm
  rw [ofText_textOf hlines, ofText_textOf hold, numberedFrom_append, numberedFrom_append,
    Nat.zero_add, numberedFrom, hmoved]
  exact run_insert (renumber_numberedFrom_of_length_le (by omega)) (step_of_isIdleAfter hidle)

theorem success_result (reading : Reading) :
    reading.result.success = reading.rejected.isEmpty := rfl

theorem errors_result (reading : Reading) :
    reading.result.errors =
      if reading.rejected = [] then none else some (reading.rejected.map rejection) := by
  unfold result errors
  cases reading.rejected with
  | nil => rfl
  | cons line lines => rfl

/-- Putting a line that means nothing into a text changes neither the schema nor whether reading
succeeds, and the messages differ only by the numbers of the lines that moved. -/
theorem result_insert_idle_line {before after : List (List Char)} {line : List Char}
    (hlines : ∀ other ∈ before ++ line :: after, '\n' ∉ other)
    (hidle : IsIdleAfter before line) :
    let old := ofText (textOf (before ++ after))
    let new := ofText (textOf (before ++ line :: after))
    new.result.schema = old.result.schema ∧ new.result.success = old.result.success ∧
      old.result.errors =
        (if old.rejected = [] then none else some (old.rejected.map rejection)) ∧
      new.result.errors =
        (if old.rejected = [] then none
          else some ((old.rejected.map (·.renumber (shifted before.length))).map rejection)) := by
  intro old new
  have hnew : new = old.renumber (shifted before.length) := ofText_insert hlines hidle
  have hrejected : new.rejected = old.rejected.map (·.renumber (shifted before.length)) := by
    rw [hnew, rejected_renumber]
  refine ⟨?_, ?_, errors_result old, ?_⟩
  · rw [hnew]
    exact schema_renumber _ old
  · rw [success_result, success_result, hrejected, List.isEmpty_map]
  · rw [errors_result, hrejected]
    simp only [List.map_eq_nil_iff]

theorem result_insert_direction_into_block :
    let before := ["erDiagram".toList, "Order \x7b".toList, "int".toList]
    let after := ["id: int".toList, "int id PK".toList]
    let line := "\tDirection  lr ".toList
    let old := ofText (textOf (before ++ after))
    let new := ofText (textOf (before ++ line :: after))
    (∀ other ∈ before ++ line :: after, '\n' ∉ other) ∧ IsIdleAfter before line ∧
      old.rejected = [⟨3, "int"⟩, ⟨4, "id: int"⟩] ∧
      new.result.schema = old.result.schema ∧
      new.result.errors = some (
        ["Line 3: Unable to parse attribute: \"int\"",
          "Line 5: Unable to parse attribute: \"id: int\""]) := by
  intro before after line old new
  have hlines : ∀ other ∈ before ++ line :: after, '\n' ∉ other := by decide
  have hidle : IsIdleAfter before line := .direction (by decide)
  have hrejected : old.rejected = [⟨3, "int"⟩, ⟨4, "id: int"⟩] := by decide +kernel
  obtain ⟨hschema, -, -, herrors⟩ := result_insert_idle_line hlines hidle
  refine ⟨hlines, hidle, hrejected, hschema, herrors.trans ?_⟩
  rw [hrejected]
  decide +kernel

end Reading

end EntityDiagram
