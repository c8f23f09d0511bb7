import EntityDiagram.Session.Path
import EntityDiagram.Sql.Query

/-! # Commands -/

namespace EntityDiagram

/-- Where a command takes its diagram from. -/
structure Source where
  path : Option Path := none
  url : Option String := none
  deriving Repr, DecidableEq

/-- A command with its options. -/
inductive Command where
  /-- Prints the summary of the schema, or saves the schema. -/
  | parse (source : Source) (out : Option Path)
  /-- Reports what is wrong with the diagram. -/
  | validate (source : Source)
  /-- Lists the entities. -/
  | entities (source : Source)
  /-- Describes one entity. -/
  | entity (name : String) (source : Source)
  /-- Lists the relationships, perhaps of one entity only. -/
  | relationships (source : Source) (name : Option String)
  /-- Prints or saves the script that creates the schema, or the one that drops it. -/
  | sql (source : Source) (out : Option Path) (drop : Bool)
  /-- Prints the table of an entity and the query that lists its rows. -/
  | queries (name : String) (source : Source) (options : Sql.ListOptions)

/-- Where a command takes its diagram from. -/
def Command.source : Command → Source
  | parse source _ => source
  | validate source => source
  | entities source => source
  | entity _ source => source
  | relationships source _ => source
  | sql source _ _ => source
  | queries _ source _ => source

end EntityDiagram
