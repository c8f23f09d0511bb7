import EntityDiagram.Proofs.Reading.Step
import EntityDiagram.Proofs.Text.Span
import EntityDiagram.Schema.Summary

/-! # How large a schema can get

A line adds at most three things to a reading: a relationship and the two entities that it names. So
the size of a schema is bounded by the length of the text that it was read from.
-/

namespace EntityDiagram

/-- The number of entities, attributes and relationships. -/
def Schema.size (schema : Schema) : Nat :=
  schema.entities.length + schema.attributeCount + schema.relationships.length

namespace Reading

/-- The number of entities, attributes and relationships read so far, those of the open block
included. -/
def size (reading : Reading) : Nat :=
  Schema.size ⟨reading.entities, reading.relationships⟩ +
    match reading.place with
    | .inBlock entity => 1 + entity.attributes.length
    | .beforeHeader => 0
    | .topLevel => 0

theorem size_put_le (entity : Entity) (entities : List Entity)
    (relationships : List Relationship) :
    Schema.size ⟨entity.put entities, relationships⟩ ≤
      Schema.size ⟨entities, relationships⟩ + (1 + entity.attributes.length) := by
  simp only [Schema.size, Schema.attributeCount]
  induction entities with
  | nil =>
      simp only [Entity.put, List.length_singleton, List.length_nil, List.flatMap_cons,
        List.flatMap_nil, List.append_nil]
      omega
  | cons other rest ih =>
      rw [Entity.put]
      split <;> simp only [List.length_cons, List.flatMap_cons, List.length_append] <;> omega

theorem size_ensure_le (entity : Entity) (h : entity.attributes = []) (entities : List Entity)
    (relationships : List Relationship) :
    Schema.size ⟨entity.ensure entities, relationships⟩ ≤
      Schema.size ⟨entities, relationships⟩ + 1 := by
  rw [Entity.ensure]
  split
  · omega
  · simp only [Schema.size, Schema.attributeCount, List.length_append, List.length_singleton,
      List.flatMap_append, List.flatMap_cons, List.flatMap_nil, h, List.length_nil]
    omega

theorem size_close_le (reading : Reading) : reading.close.size ≤ reading.size := by
  obtain ⟨place, entities, relationships, rejected, ignored⟩ := reading
  cases place with
  | beforeHeader => exact Nat.le_refl _
  | topLevel => exact Nat.le_refl _
  | inBlock entity => exact size_put_le entity entities relationships

theorem size_schema_le (reading : Reading) : reading.schema.size ≤ reading.size := by
  have hschema : reading.schema.size ≤ reading.close.size := by
    have hrelationships : reading.close.relationships = reading.relationships := by
      unfold close
      split <;> rfl
    rw [size, schema, hrelationships]
    exact Nat.le_add_right _ _
  exact Nat.le_trans hschema reading.size_close_le

theorem size_le_of_effect {reading next : Reading} {line : NumberedLine}
    (h : Effect reading line next) : next.size ≤ reading.size + 3 := by
  cases h with
  | skip => omega
  | start hplace => simp [size, hplace]
  | close => exact Nat.le_trans reading.size_close_le (Nat.le_add_right _ 3)
  | append hplace hread =>
      simp only [size, hplace, List.length_append, List.length_singleton]
      omega
  | reject hplace hread => simp [size]
  | opening hplace hread => simp [size, hplace, Entity.ofHeading]
  | @relationship relationship hplace hread =>
      have hadded : Schema.size ⟨reading.entities, reading.relationships ++ [relationship]⟩ =
          Schema.size ⟨reading.entities, reading.relationships⟩ + 1 := by
        simp [Schema.size, Schema.attributeCount, Nat.add_assoc]
      have hfirst := size_ensure_le ⟨relationship.first, none, []⟩ rfl reading.entities
        (reading.relationships ++ [relationship])
      have hsecond := size_ensure_le ⟨relationship.second, none, []⟩ rfl
        (Entity.ensure ⟨relationship.first, none, []⟩ reading.entities)
        (reading.relationships ++ [relationship])
      simp only [size, hplace]
      omega
  | @mention heading hplace hread =>
      have hone := size_ensure_le (.ofHeading heading) rfl reading.entities reading.relationships
      simp only [size, hplace]
      omega
  | ignore hplace => simp [size]

theorem size_run_le (lines : List NumberedLine) : (run lines).size ≤ 3 * lines.length := by
  have hfold : ∀ reading : Reading,
      (lines.foldl step reading).size ≤ reading.size + 3 * lines.length := by
    induction lines with
    | nil => exact fun reading => Nat.le_refl _
    | cons line lines ih =>
        intro reading
        have hstep := size_le_of_effect (step_effect reading line)
        have hrest := ih (reading.step line)
        rw [List.foldl_cons, List.length_cons]
        omega
  have hrun := hfold {}
  have hempty : size {} = 0 := rfl
  rw [run]
  omega

theorem length_splitOn_le (mark : Char) (cs : List Char) :
    (cs.splitOn mark).length ≤ cs.length + 1 := by
  induction cs with
  | nil => rfl
  | cons c cs ih =>
      by_cases hmark : c = mark
      · rw [hmark, Text.splitOn_cons_self, List.length_cons, List.length_cons]
        omega
      · rw [Text.splitOn_cons_of_ne hmark, List.length_modifyHead, List.length_cons]
        omega

/-- A text has room for three things on each of its lines. -/
theorem size_schema_ofText_le (text : String) :
    (ofText text).schema.size ≤ 3 * (text.length + 1) := by
  have hlines : (linesOf text).length ≤ text.length + 1 := by
    rw [linesOf, List.length_mapIdx, ← String.length_toList]
    exact length_splitOn_le '\n' text.toList
  calc
    (ofText text).schema.size ≤ (ofText text).size := size_schema_le _
    _ ≤ 3 * (linesOf text).length := size_run_le _
    _ ≤ 3 * (text.length + 1) := Nat.mul_le_mul_left 3 hlines

end Reading

end EntityDiagram
