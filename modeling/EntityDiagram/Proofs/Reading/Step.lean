import EntityDiagram.Diagram.Reading
import EntityDiagram.Proofs.Line.Form

/-! # Single lines and runs of lines

`Effect` says all that one line can do to a reading, with what the line must be like and where the
reading must stand. What every effect keeps, a whole text keeps. `ReadsTo` goes the other way: it
gives the reading after lines whose texts are known, whatever their numbers.
-/

namespace EntityDiagram.Reading

/-! ## Steps by the form of the line -/

theorem step_of_empty_or_direction {line : NumberedLine}
    (h : Line.classify line.text.toList = .empty ∨ Line.classify line.text.toList = .direction)
    (reading : Reading) : reading.step line = reading := by
  unfold step
  rcases h with h | h <;> rw [h] <;> cases reading.place <;> rfl

theorem step_of_header {reading : Reading} {line : NumberedLine}
    (hplace : reading.place ≠ .beforeHeader) (h : Line.classify line.text.toList = .header) :
    reading.step line = reading := by
  unfold step
  rw [h]
  cases hcase : reading.place with
  | beforeHeader => exact absurd hcase hplace
  | topLevel => rfl
  | inBlock entity => rfl

theorem step_of_beforeHeader {reading : Reading} {line : NumberedLine}
    (hplace : reading.place = .beforeHeader) (h : Line.classify line.text.toList ≠ .header) :
    reading.step line = reading := by
  unfold step
  rw [hplace]
  cases hform : Line.classify line.text.toList with
  | header => exact absurd hform h
  | _ => rfl

theorem step_inBlock {reading : Reading} {line : NumberedLine} {entity : Entity}
    (hplace : reading.place = .inBlock entity) (hline : Line.IsOrdinary line.text.toList) :
    reading.step line = reading.stepInBlock entity line := by
  have hform := Line.classify_of_isOrdinary hline
  unfold step
  rw [hplace]
  cases hopening : Line.opening? line.text.toList with
  | some heading => rw [hform, hopening]
  | none =>
      cases hlink : Line.relationship? line.text.toList with
      | some relationship => rw [hform, hopening, hlink]
      | none =>
          cases hmention : Line.mention? line.text.toList with
          | some heading => rw [hform, hopening, hlink, hmention]
          | none => rw [hform, hopening, hlink, hmention]

theorem step_closing {reading : Reading} {line : NumberedLine} {entity : Entity}
    (hplace : reading.place = .inBlock entity)
    (hline : Line.classify line.text.toList = .closing) : reading.step line = reading.close := by
  simp [step, hline, hplace]

theorem step_opening {reading : Reading} {line : NumberedLine} {heading : Line.Heading}
    (hplace : reading.place = .topLevel)
    (hline : Line.classify line.text.toList = .opening heading) :
    reading.step line = { reading with place := .inBlock (.ofHeading heading) } := by
  simp [step, hline, hplace, stepTopLevel]

theorem step_relationship {reading : Reading} {line : NumberedLine} {relationship : Relationship}
    (hplace : reading.place = .topLevel)
    (hline : Line.classify line.text.toList = .relationship relationship) :
    reading.step line =
      { reading with
        entities :=
          Entity.ensure { name := relationship.second }
            (Entity.ensure { name := relationship.first } reading.entities)
        relationships := reading.relationships ++ [relationship] } := by
  simp [step, hline, hplace, stepTopLevel]

theorem step_mention {reading : Reading} {line : NumberedLine} {heading : Line.Heading}
    (hplace : reading.place = .topLevel)
    (hline : Line.classify line.text.toList = .mention heading) :
    reading.step line =
      { reading with entities := (Entity.ofHeading heading).ensure reading.entities } := by
  simp [step, hline, hplace, stepTopLevel]

/-! ## Effects -/

inductive Effect (reading : Reading) (line : NumberedLine) : Reading → Prop where
  | skip : Effect reading line reading
  | start (hplace : reading.place = .beforeHeader) :
      Effect reading line { reading with place := .topLevel }
  | close : Effect reading line reading.close
  | append {entity : Entity} {attr : Attribute} (hplace : reading.place = .inBlock entity)
      (hread : Line.attribute? line.text.toList = some attr) :
      Effect reading line
        { reading with
          place := .inBlock { entity with attributes := entity.attributes ++ [attr] } }
  | reject {entity : Entity} (hplace : reading.place = .inBlock entity)
      (hread : Line.attribute? line.text.toList = none) :
      Effect reading line { reading with rejected := reading.rejected ++ [line] }
  | opening {heading : Line.Heading} (hplace : reading.place = .topLevel)
      (hread : Line.opening? line.text.toList = some heading) :
      Effect reading line { reading with place := .inBlock (.ofHeading heading) }
  | relationship {relationship : Relationship} (hplace : reading.place = .topLevel)
      (hread : Line.relationship? line.text.toList = some relationship) :
      Effect reading line
        { reading with
          entities :=
            Entity.ensure { name := relationship.second }
              (Entity.ensure { name := relationship.first } reading.entities)
          relationships := reading.relationships ++ [relationship] }
  | mention {heading : Line.Heading} (hplace : reading.place = .topLevel)
      (hread : Line.mention? line.text.toList = some heading) :
      Effect reading line
        { reading with entities := (Entity.ofHeading heading).ensure reading.entities }
  | ignore (hplace : reading.place = .topLevel) :
      Effect reading line { reading with ignored := reading.ignored ++ [line] }

theorem stepInBlock_effect {reading : Reading} {entity : Entity} (line : NumberedLine)
    (hplace : reading.place = .inBlock entity) :
    Effect reading line (reading.stepInBlock entity line) := by
  unfold stepInBlock
  cases hread : Line.attribute? line.text.toList with
  | some attr => exact .append hplace hread
  | none => exact .reject hplace hread

theorem stepTopLevel_effect {reading : Reading} {line : NumberedLine} {form : Line.Form}
    (hplace : reading.place = .topLevel) (hform : Line.classify line.text.toList = form) :
    Effect reading line (reading.stepTopLevel line form) := by
  have hread := Line.isRead_classify line.text.toList
  rw [hform] at hread
  cases form with
  | opening heading => exact .opening hplace hread
  | relationship relationship => exact .relationship hplace hread
  | mention heading => exact .mention hplace hread
  | unknown => exact .ignore hplace
  | empty => exact .skip
  | header => exact .skip
  | direction => exact .skip
  | closing => exact .skip

theorem step_effect (reading : Reading) (line : NumberedLine) :
    Effect reading line (reading.step line) := by
  unfold step
  split
  · next hplace => exact .start hplace
  · exact .skip
  · exact .skip
  · exact .skip
  · exact .skip
  · exact .close
  · exact stepInBlock_effect line ‹reading.place = .inBlock _›
  · exact stepTopLevel_effect ‹reading.place = .topLevel› rfl

/-- What holds of the empty reading and is kept by every effect holds after any lines. -/
theorem run_of_effect {P : Reading → Prop} (hempty : P {})
    (heffect : ∀ {reading line next}, P reading → Effect reading line next → P next)
    (lines : List NumberedLine) : P (run lines) := by
  have hfold : ∀ reading, P reading → P (lines.foldl step reading) := by
    induction lines with
    | nil => exact fun reading h => h
    | cons line lines ih =>
        intro reading h
        exact ih (reading.step line) (heffect h (step_effect reading line))
  exact hfold {} hempty

/-! ## Lines with known texts -/

def ReadsTo (reading : Reading) (texts : List (List Char)) (final : Reading) : Prop :=
  ∀ lines : List NumberedLine, lines.map (·.text.toList) = texts →
    lines.foldl step reading = final

theorem ReadsTo.refl (reading : Reading) : ReadsTo reading [] reading := by
  intro lines hlines
  rw [List.map_eq_nil_iff.mp hlines]
  rfl

theorem ReadsTo.trans {first second third : Reading} {texts more : List (List Char)}
    (h : ReadsTo first texts second) (hmore : ReadsTo second more third) :
    ReadsTo first (texts ++ more) third := by
  intro lines hlines
  obtain ⟨before, after, rfl, hbefore, hafter⟩ := List.map_eq_append_iff.mp hlines
  rw [List.foldl_append, h before hbefore, hmore after hafter]

theorem ReadsTo.of_step {reading final : Reading} {text : List Char}
    (h : ∀ line : NumberedLine, line.text.toList = text → reading.step line = final) :
    ReadsTo reading [text] final := by
  intro lines hlines
  obtain ⟨line, rfl, hline⟩ := List.map_eq_singleton_iff.mp hlines
  exact h line hline

theorem ReadsTo.cons {first second third : Reading} {text : List Char} {more : List (List Char)}
    (h : ReadsTo first [text] second) (hmore : ReadsTo second more third) :
    ReadsTo first (text :: more) third := h.trans hmore

/-- The lines of a text without the blanks around them. -/
def trimmedLines (text : String) : List (List Char) := (text.toList.splitOn '\n').map Text.trim

theorem map_text_linesOf (text : String) :
    (linesOf text).map (·.text.toList) = trimmedLines text := by
  apply List.ext_getElem?
  intro i
  simp [linesOf, trimmedLines, List.getElem?_mapIdx, Function.comp_def]

theorem ReadsTo.ofText {text : String} {final : Reading}
    (h : ReadsTo {} (trimmedLines text) final) : ofText text = final :=
  h (linesOf text) (map_text_linesOf text)

end EntityDiagram.Reading
