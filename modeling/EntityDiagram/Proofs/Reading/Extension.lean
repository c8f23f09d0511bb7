import EntityDiagram.Proofs.Reading.Insertion
import EntityDiagram.Proofs.Reading.Mentions

/-! # Texts that go on

Nothing that has been read is taken back by the lines that follow. A block that is open when a text
ends is closed there, while it stays open if the text goes on; its name has its place among the
names either way, since no other name can be recorded before the block is closed.
-/

namespace EntityDiagram

theorem prefix_addName (names : List String) (name : String) : names <+: addName names name := by
  unfold addName
  split
  · exact List.prefix_rfl
  · exact List.prefix_append names [name]

namespace Reading

/-- All that a reading holds comes first in a later one. An open block counts as closed. -/
structure Extends (later earlier : Reading) : Prop where
  rejected : earlier.rejected <+: later.rejected
  relationships : earlier.relationships <+: later.relationships
  names : earlier.schema.names <+: later.schema.names

theorem Extends.refl (reading : Reading) : reading.Extends reading :=
  ⟨List.prefix_rfl, List.prefix_rfl, List.prefix_rfl⟩

theorem Extends.trans {first second third : Reading} (h : second.Extends first)
    (hnext : third.Extends second) : third.Extends first :=
  ⟨h.rejected.trans hnext.rejected, h.relationships.trans hnext.relationships,
    h.names.trans hnext.names⟩

/-! ## One line -/

theorem names_schema (reading : Reading) :
    reading.schema.names =
      match reading.place with
      | .inBlock entity => addName (reading.entities.map (·.name)) entity.name
      | _ => reading.entities.map (·.name) := by
  unfold schema Schema.names close
  cases reading.place with
  | beforeHeader => rfl
  | topLevel => rfl
  | inBlock entity => exact Entity.names_put entity reading.entities

theorem extends_of_effect {reading next : Reading} {line : NumberedLine}
    (heffect : Effect reading line next) : next.Extends reading := by
  cases heffect with
  | skip => exact Extends.refl reading
  | start hplace =>
      refine ⟨List.prefix_rfl, List.prefix_rfl, ?_⟩
      simp only [names_schema, hplace, List.prefix_rfl]
  | close =>
      have hkept : reading.close.rejected = reading.rejected ∧
          reading.close.relationships = reading.relationships := by
        unfold close
        cases reading.place <;> exact ⟨rfl, rfl⟩
      refine ⟨?_, ?_, ?_⟩
      · rw [hkept.1]
      · rw [hkept.2]
      · rw [schema_close]
  | append hplace _ =>
      -- The block has one attribute more and the same name.
      refine ⟨List.prefix_rfl, List.prefix_rfl, ?_⟩
      simp only [names_schema, hplace, List.prefix_rfl]
  | reject hplace _ =>
      refine ⟨List.prefix_append _ _, List.prefix_rfl, ?_⟩
      simp only [names_schema, hplace, List.prefix_rfl]
  | opening hplace _ =>
      refine ⟨List.prefix_rfl, List.prefix_rfl, ?_⟩
      simp only [names_schema, hplace]
      exact prefix_addName _ _
  | relationship hplace _ =>
      refine ⟨List.prefix_rfl, List.prefix_append _ _, ?_⟩
      simp only [names_schema, hplace, Entity.names_ensure]
      exact (prefix_addName _ _).trans (prefix_addName _ _)
  | mention hplace _ =>
      refine ⟨List.prefix_rfl, List.prefix_rfl, ?_⟩
      simp only [names_schema, hplace, Entity.names_ensure]
      exact prefix_addName _ _
  | ignore hplace =>
      refine ⟨List.prefix_rfl, List.prefix_rfl, ?_⟩
      simp only [names_schema, hplace, List.prefix_rfl]

/-! ## More lines -/

theorem extends_foldl_step (reading : Reading) (lines : List NumberedLine) :
    (lines.foldl step reading).Extends reading := by
  induction lines generalizing reading with
  | nil => exact Extends.refl reading
  | cons line lines ih =>
      exact (extends_of_effect (step_effect reading line)).trans (ih (reading.step line))

theorem linesOf_append_eq (text more : String) :
    linesOf (text ++ "\n" ++ more) = linesOf text ++
      numberedFrom (text.toList.splitOn '\n').length (more.toList.splitOn '\n') := by
  have hsplit : (text ++ "\n" ++ more).toList.splitOn '\n' =
      text.toList.splitOn '\n' ++ more.toList.splitOn '\n' := by
    rw [← List.splitOn_append_cons_self]
    simp
  rw [linesOf_eq_numberedFrom, linesOf_eq_numberedFrom, hsplit, numberedFrom_append, Nat.zero_add]

/-- The lines of a text keep their numbers when the text goes on. -/
theorem linesOf_append (text more : String) :
    ∃ lines, linesOf (text ++ "\n" ++ more) = linesOf text ++ lines :=
  ⟨_, linesOf_append_eq text more⟩

/-- One more line is one more step. -/
theorem exists_ofText_append_line {line : List Char} (h : '\n' ∉ line) (text : String) :
    ∃ number, ofText (text ++ "\n" ++ String.ofList line) =
      (ofText text).step ⟨number, String.ofList (Text.trim line)⟩ := by
  refine ⟨(text.toList.splitOn '\n').length + 1, ?_⟩
  rw [ofText, linesOf_append_eq, String.toList_ofList, List.splitOn_eq_singleton h, run,
    List.foldl_append]
  rfl

/-- The messages, relationships and names of a text come first when the text goes on, and in the
same order. -/
theorem result_prefix_of_append (text more : String) :
    let earlier := (ofText text).result
    let later := (ofText (text ++ "\n" ++ more)).result
    earlier.errors.getD [] <+: later.errors.getD [] ∧
      earlier.schema.relationships <+: later.schema.relationships ∧
      earlier.schema.names <+: later.schema.names := by
  intro earlier later
  obtain ⟨lines, hlines⟩ := linesOf_append text more
  have hlater : ofText (text ++ "\n" ++ more) = lines.foldl step (ofText text) := by
    rw [ofText, hlines, run, List.foldl_append]
    rfl
  have hextends := extends_foldl_step (ofText text) lines
  rw [← hlater] at hextends
  refine ⟨?_, hextends.relationships, hextends.names⟩
  rw [getD_errors_result, getD_errors_result]
  exact hextends.rejected.map rejection

end Reading

end EntityDiagram
