import EntityDiagram.Proofs.Json.Characters
import EntityDiagram.Schema.File
import EntityDiagram.Text.Newline

/-! # Schema files are read back

The file of a schema holds no carriage return and starts and ends with braces, so that neither the
line ends nor the blanks at its ends are touched when it is read, and its value describes the schema
that it was written for.
-/

namespace EntityDiagram

/-! ## Values for schemas -/

namespace SchemaFile

theorem itemsFrom_map {α : Type} {read : Json → Checked α} {write : α → Json}
    (h : ∀ x, read (write x) = .ok x) (position : Nat) (xs : List α) :
    itemsFrom read position (xs.map write) = .ok xs := by
  induction xs generalizing position with
  | nil => rfl
  | cons x xs ih =>
      rw [List.map_cons, itemsFrom, h x, ih]
      rfl

theorem array_map {α : Type} {read : Json → Checked α} {write : α → Json}
    (h : ∀ x, read (write x) = .ok x) (xs : List α) :
    array read (.list (xs.map write)) = .ok xs :=
  itemsFrom_map h 0 xs

theorem string?_ofText? (s : Option String) : string? (.ofText? s) = .ok s := by
  cases s <;> rfl

theorem array_key_ofTexts (keys : List Key) :
    array key (.ofTexts (keys.map (·.code))) = .ok keys := by
  have hkey : ∀ k : Key, key (.text k.code) = .ok k := by simp [key]
  rw [Json.ofTexts, List.map_map]
  exact array_map hkey keys

theorem attributeOf_toJson (attr : Attribute) : object attributeOf attr.toJson = .ok attr := by
  have hkeys := array_key_ofTexts attr.keys
  have hcomment := string?_ofText? attr.comment
  simp [Attribute.toJson, object, attributeOf, required, optional, Json.lookup?, string, hkeys,
    hcomment, under, Checked.ap]

theorem entityOf_toJson (entity : Entity) : object entityOf entity.toJson = .ok entity := by
  have hshown := string?_ofText? entity.displayName
  have hattributes := array_map attributeOf_toJson entity.attributes
  simp [Entity.toJson, object, entityOf, required, optional, Json.lookup?, string, hshown,
    hattributes, under, Checked.ap]

theorem relationshipOf_toJson (relationship : Relationship) :
    object relationshipOf relationship.toJson = .ok relationship := by
  simp [Relationship.toJson, object, relationshipOf, required, Json.lookup?, string, cardinality,
    boolean, under, Checked.ap]

theorem schema_toJson (schema : Schema) : SchemaFile.schema schema.toJson = .ok schema := by
  have hentities := array_map entityOf_toJson schema.entities
  have hrelationships := array_map relationshipOf_toJson schema.relationships
  simp [Schema.toJson, SchemaFile.schema, object, schemaOf, optional, Json.lookup?, hentities,
    hrelationships, under, Checked.ap]

end SchemaFile

/-! ## Nesting -/

open Json (Fits)

theorem fits_ofText? (depth : Nat) (s : Option String) : Fits depth (.ofText? s) := by
  cases s with
  | none => exact .null
  | some s => exact .text s

theorem fits_list_map {α : Type} {depth : Nat} {write : α → Json} (h : ∀ x, Fits depth (write x))
    (xs : List α) : Fits (depth + 1) (.list (xs.map write)) :=
  .list (List.forall_mem_map.mpr fun x _ => h x)

theorem Attribute.fits_toJson (depth : Nat) (attr : Attribute) : Fits (depth + 2) attr.toJson := by
  have hkeys : Fits (depth + 1) (.ofTexts (attr.keys.map (·.code))) :=
    fits_list_map .text (attr.keys.map (·.code))
  refine .record ?_
  simp only [List.forall_mem_cons]
  exact ⟨.text attr.name, .text attr.typeName, hkeys, fits_ofText? _ attr.comment, by simp⟩

theorem Entity.fits_toJson (depth : Nat) (entity : Entity) : Fits (depth + 4) entity.toJson := by
  refine .record ?_
  simp only [List.forall_mem_cons]
  exact ⟨.text entity.name, fits_ofText? _ entity.displayName,
    fits_list_map (Attribute.fits_toJson depth) entity.attributes, by simp⟩

theorem Relationship.fits_toJson (depth : Nat) (relationship : Relationship) :
    Fits (depth + 1) relationship.toJson := by
  refine .record ?_
  simp only [List.forall_mem_cons]
  exact ⟨.text _, .text _, .text _, .text _, .bool _, .text _, by simp⟩

theorem Schema.fits_toJson (depth : Nat) (schema : Schema) : Fits (depth + 6) schema.toJson := by
  refine .record ?_
  simp only [List.forall_mem_cons]
  exact ⟨fits_list_map (Entity.fits_toJson depth) schema.entities,
    fits_list_map (Relationship.fits_toJson (depth + 3)) schema.relationships, by simp⟩

/-! ## The text of the file -/

namespace Schema

theorem fits_maxDepth_toJson (schema : Schema) : Fits Json.maxDepth schema.toJson :=
  schema.fits_toJson 194

theorem toList_fileText (schema : Schema) :
    schema.fileText.toList = schema.toJson.chars Json.unicode 0 := by
  rw [fileText, Json.render, String.toList_ofList]

theorem unifyNewlines_fileText (schema : Schema) :
    Text.unifyNewlines schema.fileText.toList = schema.fileText.toList := by
  refine Text.unifyNewlines_of_not_mem fun hmem => ?_
  rw [toList_fileText] at hmem
  have hreturn := Json.isWritten_of_mem_chars Json.isSound_unicode schema.toJson 0 '\r' hmem
  rcases hreturn with hreturn | hreturn <;> revert hreturn <;> decide

theorem trim_fileText (schema : Schema) :
    Text.trim schema.fileText.toList = schema.fileText.toList := by
  rw [toList_fileText, toJson, Json.chars_record_cons]
  apply Text.trim_eq_self
  · rintro c ⟨⟩
    decide
  · rw [Json.getLast?_bracketed]
    rintro c ⟨⟩
    decide

end Schema

theorem SchemaFile.read_fileText (schema : Schema) :
    SchemaFile.read schema.fileText = .ok schema := by
  have hne : schema.fileText.toList ≠ [] := by
    rw [Schema.toList_fileText, Schema.toJson, Json.chars_record_cons]
    exact List.cons_ne_nil _ _
  have hparse : Json.parse? schema.fileText = some schema.toJson :=
    Json.parse?_render Json.isSound_unicode schema.fits_maxDepth_toJson
  simp [SchemaFile.read, schema.trim_fileText, hne, hparse, schema_toJson]

end EntityDiagram
