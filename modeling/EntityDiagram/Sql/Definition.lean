import EntityDiagram.Schema.Basic
import EntityDiagram.Schema.Name
import EntityDiagram.Sql.ColumnType
import EntityDiagram.Sql.Token

/-! # Table definitions

The statements that create the tables of a schema, tie them together by foreign keys, and drop them.
A foreign key is inferred from the name of its column: `x_id` refers to the table `x`.
-/

namespace EntityDiagram.Sql

/-- A column of a table. -/
structure Column where
  name : String
  type : String
  required : Bool
  deriving Repr, DecidableEq

/-- A statement of data definition. -/
inductive Statement where
  | createTable (table : String) (columns : List Column) (primaryKey unique : List String)
  | addForeignKey (table constraint column refTable refColumn : String)
  | dropTable (table : String)
  deriving Repr, DecidableEq

namespace Statement

/-- The line that declares a column. -/
def columnLine (column : Column) : List Token :=
  [.plain "  ", .name column.name, .plain " ", .plain column.type] ++
    if column.required then [.plain " NOT NULL"] else []

/-- The line that declares a primary key, unless it is empty. -/
def primaryKeyLines (columns : List String) : List (List Token) :=
  if columns.isEmpty then []
  else
    [[.plain "  PRIMARY KEY ("] ++ separatedBy ", " (columns.map fun column => [.name column]) ++
      [.plain ")"]]

/-- The line that declares a column to be unique. -/
def uniqueLine (column : String) : List Token := [.plain "  UNIQUE (", .name column, .plain ")"]

/-- The tokens of a statement. -/
def tokens : Statement → List Token
  | createTable table columns primaryKey unique =>
      [.plain "CREATE TABLE IF NOT EXISTS ", .name table, .plain " (\n"] ++
        separatedBy ",\n"
          (columns.map columnLine ++ primaryKeyLines primaryKey ++ unique.map uniqueLine) ++
        [.plain "\n);"]
  | addForeignKey table constraint column refTable refColumn =>
      [.plain "ALTER TABLE ", .name table, .plain " ADD CONSTRAINT ", .name constraint,
        .plain " FOREIGN KEY (", .name column, .plain ") REFERENCES ", .name refTable, .plain " (",
        .name refColumn, .plain ") ON DELETE CASCADE;"]
  | dropTable table => [.plain "DROP TABLE IF EXISTS ", .name table, .plain " CASCADE;"]

/-- The text of a statement. -/
def text (statement : Statement) : String := render statement.tokens

end Statement

/-- The table of an entity. -/
def tableName (entity : Entity) : String := Name.identifier entity.name

/-- The column of an attribute. -/
def columnName (attr : Attribute) : String := Name.identifier attr.name

/-- The column of an attribute with its type; the columns of the primary key are required. -/
def columnOf (attr : Attribute) : Column :=
  ⟨columnName attr, columnType attr.typeName, attr.isPrimary⟩

/-- The statement that creates the table of an entity. -/
def createTable (entity : Entity) : Statement :=
  .createTable (tableName entity) (entity.attributes.map columnOf)
    (entity.primaryAttributes.map columnName)
    ((entity.attributes.filter fun attr => attr.isUnique && !attr.isPrimary).map columnName)

/-- The column that identifies the rows of an entity's table: the first of its primary key, or else
the column `id`. -/
def keyColumn (entity : Entity) : String :=
  match entity.primaryAttributes with
  | attr :: _ => columnName attr
  | [] => "id"

/-- The table that the name of a column refers to: what is before a final `_id`. -/
def referredTable? (column : String) : Option String :=
  let cs := column.toList
  if ['_', 'i', 'd'].isSuffixOf cs then some (String.ofList (cs.take (cs.length - 3))) else none

/-- The table and column that a column refers to by its name. Of several entities with one table the
first counts. -/
def reference? (tables : List (String × Entity)) (column : String) : Option (String × String) :=
  match referredTable? column with
  | none => none
  | some table => (tables.lookup table).map fun entity => (table, keyColumn entity)

/-- The entities of a schema by their tables. -/
def tablesOf (schema : Schema) : List (String × Entity) :=
  schema.entities.map fun entity => (tableName entity, entity)

/-- A column of a table. -/
structure ColumnRef where
  table : String
  column : String
  deriving Repr, DecidableEq

/-- The columns that are declared to refer to other tables, in order. -/
def foreignColumns (schema : Schema) : List ColumnRef :=
  schema.entities.flatMap fun entity =>
    entity.foreignAttributes.map fun attr => ⟨tableName entity, columnName attr⟩

/-- The statement that ties a column to the one it refers to by its name, if there is one. -/
def foreignKey? (schema : Schema) (source : ColumnRef) : Option Statement :=
  (reference? (tablesOf schema) source.column).map fun (refTable, refColumn) =>
    .addForeignKey source.table ("fk_" ++ source.table ++ "_" ++ source.column) source.column
      refTable refColumn

/-- The statements that create the tables of a schema. -/
def createTables (schema : Schema) : List Statement := schema.entities.map createTable

/-- The statements that add the foreign keys of a schema. -/
def foreignKeys (schema : Schema) : List Statement :=
  (foreignColumns schema).filterMap (foreignKey? schema)

/-- The columns that are declared to refer to other tables and whose name refers to none. -/
def unresolvedColumns (schema : Schema) : List ColumnRef :=
  (foreignColumns schema).filter fun source => (foreignKey? schema source).isNone

/-- The statements that drop the tables of a schema. -/
def dropTables (schema : Schema) : List Statement :=
  schema.entities.map fun entity => .dropTable (tableName entity)

/-- The script that creates a schema. -/
def script (schema : Schema) : String :=
  "\n\n".intercalate
    (["-- Generated by erd2sql", "-- Create Tables"] ++ (createTables schema).map (·.text) ++
      ["", "-- Foreign Key Constraints"] ++ (foreignKeys schema).map (·.text))

/-- The script that drops a schema. -/
def dropScript (schema : Schema) : String := "\n".intercalate ((dropTables schema).map (·.text))

end EntityDiagram.Sql
