import EntityDiagram.Entries
import EntityDiagram.Text.Blank
import EntityDiagram.Text.Case
import EntityDiagram.Text.Newline
import EntityDiagram.Text.Printable
import EntityDiagram.Text.Quoted
import EntityDiagram.Text.Ranges
import EntityDiagram.Text.Word
import EntityDiagram.Number.Literal
import EntityDiagram.Number.Shortest
import EntityDiagram.Json.Printer
import EntityDiagram.Json.Reader
import EntityDiagram.Schema.Check
import EntityDiagram.Schema.File
import EntityDiagram.Schema.Summary
import EntityDiagram.Diagram.Check
import EntityDiagram.Diagram.Reading
import EntityDiagram.Sql.Definition
import EntityDiagram.Sql.Query
import EntityDiagram.Command.Execution
import EntityDiagram.Session.Step
import EntityDiagram.Main
import EntityDiagram.Proofs.Text.Span
import EntityDiagram.Proofs.Line.Name
import EntityDiagram.Proofs.Line.Key
import EntityDiagram.Proofs.Line.Type
import EntityDiagram.Proofs.Line.Attribute
import EntityDiagram.Proofs.Line.Relationship
import EntityDiagram.Proofs.Line.Form
import EntityDiagram.Proofs.Line.Exclusion
import EntityDiagram.Proofs.Reading.Step
import EntityDiagram.Proofs.Reading.Names
import EntityDiagram.Proofs.Reading.Written
import EntityDiagram.Proofs.Reading.Consistency
import EntityDiagram.Proofs.Reading.Spelling
import EntityDiagram.Proofs.Text.Lower
import EntityDiagram.Proofs.Sql.Quoting
import EntityDiagram.Proofs.Json.Escape
import EntityDiagram.Proofs.Json.RoundTrip
import EntityDiagram.Proofs.Schema.File
import EntityDiagram.Proofs.Session.FileTree
import EntityDiagram.Proofs.Session.SchemaFile
import EntityDiagram.Proofs.Reading.Insertion
import EntityDiagram.Proofs.Reading.Mentions
import EntityDiagram.Proofs.Sql.Catalog
import EntityDiagram.Proofs.Sql.Lexeme
import EntityDiagram.Proofs.Sql.Binding
import EntityDiagram.Proofs.Reading.Extension
import EntityDiagram.Proofs.Reading.Block
import EntityDiagram.Proofs.Sql.KeyColumns
import EntityDiagram.Proofs.Session.Shape
import EntityDiagram.Proofs.Session.Snapshot
import EntityDiagram.Proofs.Session.Footprint
import EntityDiagram.Proofs.Command.Outcome
import EntityDiagram.Proofs.Reading.Header
import EntityDiagram.Proofs.Session.Routine
import EntityDiagram.Proofs.Session.Origin
import EntityDiagram.Proofs.Session.Handlers
import EntityDiagram.Proofs.Reading.Linking
import EntityDiagram.Proofs.Reading.Ledger
import EntityDiagram.Proofs.Sql.Reference
import EntityDiagram.Proofs.Sql.Nesting
import EntityDiagram.Proofs.Sql.Independence
import EntityDiagram.Proofs.Sql.Readback
import EntityDiagram.Proofs.Text.Small
import EntityDiagram.Proofs.Schema.Identifier
import EntityDiagram.Proofs.Schema.Details
import EntityDiagram.Proofs.Sql.TypeWord
import EntityDiagram.Proofs.Schema.Check
import EntityDiagram.Proofs.Session.Order
import EntityDiagram.Proofs.Reading.Padding
import EntityDiagram.Proofs.Json.Characters
import EntityDiagram.Proofs.Command.Output
import EntityDiagram.Proofs.Sql.Execution
