import EntityDiagram.Number.Literal
import EntityDiagram.Schema.File
import EntityDiagram.Session.Environment
import EntityDiagram.Session.Path
import EntityDiagram.Text.Case

/-! # Settings

Settings come from environment variables. The name of a variable counts in any case, and of several
variables that differ only in case the last counts.
-/

namespace EntityDiagram

/-- The settings of a session. -/
structure Settings where
  /-- Where the diagram is, unless the command says so. -/
  diagramPath : Option Path := none
  /-- Where the diagram is fetched from, if it is in no file. -/
  diagramUrl : Option String := none
  /-- How many seconds a request may take. -/
  urlTimeout : Number.Binary64 := .ofDecimal false 30 0
  logLevel : String := "INFO"
  logFile : Option Path := none
  deriving Repr, DecidableEq

namespace Settings

/-- The value of a variable whose name is given in small letters. -/
def valueOf (environment : Environment) (name : String) : Option String :=
  (environment.entries.reverse.find? fun entry => Text.lower entry.1 == name).map (·.2)

/-- The settings that the environment gives. -/
def ofEnvironment (environment : Environment) : SchemaFile.Checked Settings :=
  let value := valueOf environment
  let settings : Settings :=
    { diagramPath := (value "mermaid_diagram_path").map .ofText
      diagramUrl := value "mermaid_diagram_url"
      logLevel := (value "log_level").getD "INFO"
      logFile := (value "log_file").map .ofText }
  match value "url_timeout" with
  | none => .ok settings
  | some text =>
      match Number.float? text with
      | some seconds => .ok { settings with urlTimeout := seconds }
      | none => SchemaFile.under (.field "url_timeout") (SchemaFile.fault .notNumber)

end Settings

end EntityDiagram
