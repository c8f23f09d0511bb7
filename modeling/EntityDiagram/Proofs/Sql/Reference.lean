import EntityDiagram.Proofs.Lists
import EntityDiagram.Proofs.Sql.Catalog
import Mathlib.Data.List.Perm.Basic

/-! # References between tables

A foreign key is inferred from the name of its column alone: cut off a final `_id`, and what is left
is looked up among the tables, where the first entity with a table counts. The statements that this
gives are exactly those that the names call for, and as long as no two entities share a table they
do not depend on the order of the entities.
-/

namespace EntityDiagram.Sql

/-! ## The rule for references -/

/-- The column that others refer to: the first one of the primary key, or `id` without a key. -/
inductive IsReferredColumn (entity : Entity) : String → Prop
  | key {attr : Attribute} (h : IsFirst (·.isPrimary = true) entity.attributes attr) :
      IsReferredColumn entity (columnName attr)
  | id (h : ∀ attr ∈ entity.attributes, attr.isPrimary = false) : IsReferredColumn entity "id"

/-- The attributes of a schema with the entities that they belong to, in order. -/
def attributesOf (schema : Schema) : List (Entity × Attribute) :=
  schema.entities.flatMap fun entity => entity.attributes.map fun attr => (entity, attr)

/-- The attribute is a foreign key, and its column is the table of some entity with `_id` after
it. -/
def Refers (schema : Schema) (attr : Attribute) : Prop :=
  attr.isForeign = true ∧ ∃ target ∈ schema.entities, columnName attr = tableName target ++ "_id"

instance (schema : Schema) : DecidablePred (Refers schema) := fun attr =>
  inferInstanceAs (Decidable (attr.isForeign = true ∧ ∃ target ∈ schema.entities, _))

/-- The text ties the attribute's column to the table that is left of it without `_id`, and there to
the column of the first entity with that table. -/
def IsReferenceText (schema : Schema) (source : Entity × Attribute) (text : String) : Prop :=
  ∃ refTable refColumn target, columnName source.2 = refTable ++ "_id" ∧
    IsFirst (tableName · = refTable) schema.entities target ∧ IsReferredColumn target refColumn ∧
    text = "ALTER TABLE \"" ++ tableName source.1 ++ "\" ADD CONSTRAINT \"fk_" ++
      tableName source.1 ++ "_" ++ columnName source.2 ++ "\" FOREIGN KEY (\"" ++
      columnName source.2 ++ "\") REFERENCES \"" ++ refTable ++ "\" (\"" ++ refColumn ++
      "\") ON DELETE CASCADE;"

/-! ## Foreign keys are inferred by the rule -/

theorem isReferredColumn_keyColumn (entity : Entity) :
    IsReferredColumn entity (keyColumn entity) := by
  unfold keyColumn
  cases hprimary : entity.primaryAttributes with
  | nil =>
      refine .id fun attr hattr => ?_
      simpa using List.filter_eq_nil_iff.mp hprimary attr hattr
  | cons attr rest =>
      refine .key ((isFirst_iff_find? fun _ => Iff.rfl).mpr ?_)
      have hhead := List.head?_filter (p := (·.isPrimary)) (l := entity.attributes)
      rw [← Entity.primaryAttributes, hprimary] at hhead
      simpa using hhead.symm

theorem text_addForeignKey (table constraint column refTable refColumn : String) :
    (Statement.addForeignKey table constraint column refTable refColumn).text =
      "ALTER TABLE \"" ++ table ++ "\" ADD CONSTRAINT \"" ++ constraint ++ "\" FOREIGN KEY (\"" ++
        column ++ "\") REFERENCES \"" ++ refTable ++ "\" (\"" ++ refColumn ++
        "\") ON DELETE CASCADE;" := by
  rw [← String.toList_inj]
  simp [Statement.text, Statement.tokens, render, Token.render]

theorem foreignKey?_eq_none {schema : Schema} {entity : Entity} {attr : Attribute}
    (h : ∀ target ∈ schema.entities, columnName attr ≠ tableName target ++ "_id") :
    foreignKey? schema ⟨tableName entity, columnName attr⟩ = none := by
  have hnone : schema.entities.find? (tableName · ++ "_id" == columnName attr) = none := by
    rw [List.find?_eq_none]
    intro target htarget
    simpa using (h target htarget).symm
  rw [foreignKey?, reference?_tablesOf, hnone]
  rfl

theorem exists_foreignKey?_eq_some {schema : Schema} {entity : Entity} {attr : Attribute}
    (h : ∃ target ∈ schema.entities, columnName attr = tableName target ++ "_id") :
    ∃ statement, foreignKey? schema ⟨tableName entity, columnName attr⟩ = some statement ∧
      IsReferenceText schema (entity, attr) statement.text := by
  obtain ⟨found, hmem, hfoundColumn⟩ := h
  have hsome : (schema.entities.find? (tableName · ++ "_id" == columnName attr)).isSome = true :=
    List.find?_isSome.mpr ⟨found, hmem, beq_iff_eq.mpr hfoundColumn.symm⟩
  obtain ⟨target, htarget⟩ := Option.isSome_iff_exists.mp hsome
  have hcolumn : tableName target ++ "_id" = columnName attr := by
    simpa using List.find?_some htarget
  -- The lookup compares columns. All of them end in `_id`, so it might compare tables as well.
  have hfirst : IsFirst (tableName · = tableName target) schema.entities target := by
    rw [isFirst_iff_find? fun _ => beq_iff_eq]
    simpa only [← hcolumn, append_id_beq] using htarget
  refine ⟨.addForeignKey (tableName entity)
    ("fk_" ++ tableName entity ++ "_" ++ columnName attr) (columnName attr) (tableName target)
    (keyColumn target), ?_, ?_⟩
  · rw [foreignKey?, reference?_tablesOf, htarget, Option.map_some, Option.map_some]
  · refine ⟨tableName target, keyColumn target, target, hcolumn.symm, hfirst,
      isReferredColumn_keyColumn target, ?_⟩
    rw [text_addForeignKey, ← String.toList_inj]
    simp

theorem foreignKeys_eq_filterMap (schema : Schema) :
    foreignKeys schema = (attributesOf schema).filterMap fun source =>
      if source.2.isForeign then foreignKey? schema ⟨tableName source.1, columnName source.2⟩
      else none := by
  simp only [foreignKeys, foreignColumns, attributesOf, Entity.foreignAttributes,
    List.filterMap_flatMap, List.filterMap_map, List.filterMap_filter, Function.comp_def]

/-- There is one foreign key for each attribute that refers to a table by the name of its column, in
the order of the attributes, and none for any other. -/
theorem foreignKeys_match_references (schema : Schema) :
    List.Forall₂ (IsReferenceText schema)
      ((attributesOf schema).filter fun source => Refers schema source.2)
      ((foreignKeys schema).map (·.text)) := by
  rw [List.forall₂_map_right_iff, foreignKeys_eq_filterMap]
  apply forall₂_filter_filterMap
  · rintro ⟨entity, attr⟩ - hrefers
    dsimp only at hrefers ⊢
    split
    · next hforeign =>
        refine foreignKey?_eq_none fun target htarget hcolumn => ?_
        exact hrefers ⟨hforeign, target, htarget, hcolumn⟩
    · rfl
  · rintro ⟨entity, attr⟩ - ⟨hforeign, htarget⟩
    dsimp only at hforeign ⊢
    rw [if_pos hforeign]
    exact exists_foreignKey?_eq_some htarget

/-! ## The order of the entities -/

section

variable {schema permuted : Schema} (hperm : permuted.entities.Perm schema.entities)
  (htables : (schema.entities.map tableName).Nodup)

include hperm htables

/-- With different tables there is only one entity to find, wherever it stands. -/
theorem foreignKey?_of_perm : foreignKey? permuted = foreignKey? schema := by
  funext source
  have hpermuted : (permuted.entities.map tableName).Nodup :=
    (hperm.map tableName).nodup_iff.mpr htables
  have hfind : permuted.entities.find? (tableName · ++ "_id" == source.column) =
      schema.entities.find? (tableName · ++ "_id" == source.column) := by
    refine List.find?_eq_find?_of_perm hperm ?_
    rintro first ⟨hfirst, hname⟩ second ⟨hsecond, hother⟩
    rw [beq_iff_eq] at hname hother
    have hsame : (tableName first ++ "_id" == tableName second ++ "_id") = true :=
      beq_iff_eq.mpr (hname.trans hother.symm)
    rw [append_id_beq, beq_iff_eq] at hsame
    exact List.inj_on_of_nodup_map hpermuted hfirst hsecond hsame
  rw [foreignKey?, foreignKey?, reference?_tablesOf, reference?_tablesOf, hfind]

theorem foreignKeys_perm : (foreignKeys permuted).Perm (foreignKeys schema) := by
  rw [foreignKeys, foreignKeys, foreignKey?_of_perm hperm htables]
  exact (hperm.flatMap_right _).filterMap _

end

/-- The order in which entities with different tables are declared does not change the statements of
a schema, but for their order. Relationships play no part in them. -/
theorem statements_perm_of_entities_perm {schema permuted : Schema}
    (hperm : permuted.entities.Perm schema.entities)
    (htables : (schema.entities.map tableName).Nodup) :
    ((createTables permuted).map (·.text)).Perm ((createTables schema).map (·.text)) ∧
      ((foreignKeys permuted).map (·.text)).Perm ((foreignKeys schema).map (·.text)) ∧
      ((dropTables permuted).map (·.text)).Perm ((dropTables schema).map (·.text)) := by
  refine ⟨?_, ?_, ?_⟩
  · exact (hperm.map createTable).map _
  · exact (foreignKeys_perm hperm htables).map _
  · exact (hperm.map _).map _

/-- Two tables that refer to each other, one by its key and one by a column `id`. -/
def staff : Schema where
  entities := [
    { name := "Department"
      attributes := [⟨"code", "int", [.primary], none⟩, ⟨"employeeId", "int", [.foreign], none⟩] },
    { name := "Employee"
      attributes := [⟨"id", "int", [], none⟩, ⟨"departmentId", "int", [.foreign], none⟩] }]

def reversedStaff : Schema where
  entities := staff.entities.reverse
  relationships := [⟨"Employee", "Department", .oneOrMore, .exactlyOne, true, "works in"⟩]

theorem statements_perm_of_reversedStaff :
    (staff.entities.map tableName).Nodup ∧
      (foreignKeys staff).length = 2 ∧ foreignKeys reversedStaff ≠ foreignKeys staff ∧
      ((createTables reversedStaff).map (·.text)).Perm ((createTables staff).map (·.text)) ∧
      ((foreignKeys reversedStaff).map (·.text)).Perm ((foreignKeys staff).map (·.text)) ∧
      ((dropTables reversedStaff).map (·.text)).Perm ((dropTables staff).map (·.text)) := by
  have htables : (staff.entities.map tableName).Nodup := by decide +kernel
  exact ⟨htables, by decide +kernel, by decide +kernel,
    statements_perm_of_entities_perm (List.reverse_perm staff.entities) htables⟩

end EntityDiagram.Sql
