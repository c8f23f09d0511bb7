import EntityDiagram.Proofs.Sql.Readback

/-! # Statements run from their texts

A catalog can be changed by the text of a statement alone: read back, it creates a table, adds a
foreign key or drops a table. For the statements of a diagram that is what the statements themselves
do, so their texts can be run in order as well.
-/

namespace EntityDiagram.Sql

/-! ## Texts that drop a table -/

def dropIn? : List Lexeme → Option String
  | [.word "DROP", .word "TABLE", .word "IF", .word "EXISTS", .name table, .word "CASCADE",
      .mark ';'] => some table
  | _ => none

/-- The table that the text of a statement drops. -/
def readDrop? (text : String) : Option String := dropIn? (lexemes text.toList)

open Lexeme in
/-- The lexemes of a statement that drops a table. -/
def dropForm (table : String) : List Lexeme :=
  [word "DROP", word "TABLE", word "IF", word "EXISTS", name table, word "CASCADE", mark ';']

theorem lexemes_dropTable {table : String} (h : '"' ∉ table.toList) :
    lexemes (Statement.dropTable table).text.toList = dropForm table := by
  have hapart : AreApart (Statement.dropTable table).tokens := by
    simp only [Statement.tokens, AreApart, List.forall_mem_cons, Token.isApart_name]
    exact ⟨by decide, h, by decide, by simp⟩
  rw [Statement.text, hapart.lexemes]
  simp [Statement.tokens, Token.lexemes, lexemes, isWordChar, dropForm]

/-! ## Running texts -/

namespace Catalog

/-- The catalog after the statement with a text, unless it is none of the three or fails. -/
def executeText (catalog : Catalog) (text : String) : Option Catalog :=
  match readTable? text with
  | some definition => some (catalog.create ⟨definition.name, definition.columns⟩)
  | none =>
      match readForeignKey? text with
      | some key => catalog.addForeignKey? key
      | none => (readDrop? text).map catalog.drop

/-- The catalog after the statements with some texts, if they all succeed. -/
def runTexts (catalog : Catalog) (texts : List String) : Option Catalog :=
  texts.foldlM executeText catalog

theorem executeText_createTable {entity : Entity} (h : entity.IsSpelled) (catalog : Catalog) :
    catalog.executeText (createTable entity).text = catalog.execute (createTable entity) := by
  rw [executeText, readTable?_createTable h, createTable, execute, List.map_map]
  rfl

theorem executeText_statement {key : ForeignKey} (h : ∀ name ∈ key.names, '"' ∉ name.toList)
    (catalog : Catalog) :
    catalog.executeText key.statement.text = catalog.execute key.statement := by
  have hno : readTable? key.statement.text = none := by
    rw [readTable?, lexemes_statement h]
    rfl
  rw [executeText, hno, readForeignKey?_statement h]
  rfl

theorem executeText_dropTable {table : String} (h : '"' ∉ table.toList) (catalog : Catalog) :
    catalog.executeText (Statement.dropTable table).text = catalog.execute (.dropTable table) := by
  rw [executeText, readTable?, readForeignKey?, readDrop?, lexemes_dropTable h]
  rfl

/-- Statements that each do the same from their texts do the same from them one after another. -/
theorem runTexts_map_text {statements : List Statement}
    (h : ∀ statement ∈ statements, ∀ catalog : Catalog,
      catalog.executeText statement.text = catalog.execute statement) (catalog : Catalog) :
    catalog.runTexts (statements.map (·.text)) = catalog.run statements := by
  induction statements generalizing catalog with
  | nil => rfl
  | cons statement statements ih =>
      obtain ⟨hfirst, hrest⟩ := List.forall_mem_cons.mp h
      rw [run, runTexts, List.map_cons, List.foldlM_cons, List.foldlM_cons, hfirst]
      exact congrArg (catalog.execute statement).bind (funext (ih hrest))

end Catalog

/-! ## The texts of a diagram -/

variable {schema : Schema}

theorem executeText_of_mem_statements (hspelled : ∀ entity ∈ schema.entities, entity.IsSpelled) :
    ∀ statement ∈ createTables schema ++ foreignKeys schema ++ dropTables schema,
      ∀ catalog : Catalog, catalog.executeText statement.text = catalog.execute statement := by
  simp only [List.forall_mem_append]
  refine ⟨⟨?_, ?_⟩, ?_⟩
  · rw [createTables, List.forall_mem_map]
    exact fun entity hentity => Catalog.executeText_createTable (hspelled entity hentity)
  · rw [foreignKeys_eq_map_statement, List.forall_mem_map]
    intro key hkey
    obtain ⟨entity, hentity, attr, hattr, target, htarget, rfl⟩ :=
      Catalog.exists_of_mem_foreignKeys_ofSchema hkey
    have hnames := isIdentifier_reference (hspelled entity hentity) hattr (hspelled target htarget)
    exact Catalog.executeText_statement fun name hname => (hnames name hname).2
  · rw [dropTables, List.forall_mem_map]
    exact fun entity hentity =>
      Catalog.executeText_dropTable (isIdentifier_tableName (hspelled entity hentity)).2

/-- The texts of the statements that create the schema of a diagram give its catalog when they are
run in order, and those of the statements that drop it leave nothing. -/
theorem runTexts_statements_ofText (text : String)
    (hschema : (Reading.ofText text).result.schema = schema)
    (htables : (schema.entities.map tableName).Nodup)
    (hcolumns : ∀ entity ∈ schema.entities, (entity.attributes.map columnName).Nodup)
    (hkeys : ∀ entity ∈ schema.entities,
      (∃ attr ∈ entity.attributes, attr.isPrimary = true) ∨
        "id" ∈ entity.attributes.map columnName) :
    Catalog.runTexts {} ((createTables schema ++ foreignKeys schema).map (·.text)) =
        some (.ofSchema schema) ∧
      (Catalog.ofSchema schema).runTexts ((dropTables schema).map (·.text)) = some {} := by
  have hspelled : ∀ entity ∈ schema.entities, entity.IsSpelled := by
    rw [← hschema]
    exact fun entity hmem => Reading.isSpelled_of_mem_schema hmem
  obtain ⟨hcreate, hdrop⟩ := List.forall_mem_append.mp (executeText_of_mem_statements hspelled)
  rw [Catalog.runTexts_map_text hcreate, Catalog.runTexts_map_text hdrop]
  exact ⟨run_createTables_foreignKeys htables hcolumns hkeys, run_dropTables_ofSchema schema⟩

end EntityDiagram.Sql
