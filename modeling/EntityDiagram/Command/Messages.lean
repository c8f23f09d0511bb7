import EntityDiagram.Diagram.Check
import EntityDiagram.Session.Log
import EntityDiagram.Sql.Query
import EntityDiagram.Text.Quoted

/-! # Log messages of commands -/

namespace EntityDiagram

/-- The messages about a reading: each line that was left out, and what was found. -/
def Reading.messages (reading : Reading) : List Log.Message :=
  let logger := "erd2sql.parser.mermaid"
  (reading.ignored.map fun line =>
    ⟨logger, .debug, "Line " ++ toString line.number ++ ": ignoring unrecognized line " ++
      Text.quoted line.text⟩) ++
  [⟨logger, .debug, "Parsed " ++ toString reading.schema.entities.length ++ " entities, " ++
    toString reading.schema.relationships.length ++ " relationships, " ++
    toString reading.errors.length ++ " errors"⟩]

/-- The message about the problems of a diagram. -/
def Diagram.problemsMessage (problems : List String) : Log.Message :=
  let logger := "erd2sql.ir.validators"
  if problems.isEmpty then ⟨logger, .info, "Diagram validation passed"⟩
  else
    ⟨logger, .warning, "Diagram validation found " ++ toString problems.length ++ " issues"⟩

/-- The messages about the statements for a schema: each column that refers to no table, and how
many statements there are. -/
def Sql.messages (schema : Schema) : List Log.Message :=
  let logger := "erd2sql.sql.ddl"
  ((unresolvedColumns schema).map fun source =>
    ⟨logger, .debug, source.table ++ "." ++ source.column ++
      ": no referenced table inferred, skipping FK"⟩) ++
  [⟨logger, .info, "Generated DDL for " ++ toString (createTables schema).length ++
    " tables with " ++ toString (foreignKeys schema).length ++ " foreign keys"⟩]

/-- The message about a column to order by that the table does not have. -/
def Sql.Table.messages (table : Sql.Table) (options : Sql.ListOptions) : List Log.Message :=
  match table.unknownOrder? options.orderBy with
  | none => []
  | some column =>
      [⟨"erd2sql.sql.query_builder", .debug, "Ignoring unknown order_by column \"" ++ column ++
        "\" for \"" ++ table.name ++ "\""⟩]

end EntityDiagram
