import EntityDiagram.Diagram.Line

/-! # Reading a diagram

A diagram is read line by line. Lines before the header are skipped. Outside a block a line may open
one, declare a relationship or mention an entity; inside a block it declares an attribute. A line in
a block that declares none is recorded, and reading goes on, so that every text has a schema.
-/

namespace EntityDiagram

/-- A line of a diagram by its number, which counts from one, without the blanks around it. -/
structure NumberedLine where
  number : Nat
  text : String
  deriving Repr, DecidableEq

/-- Where reading stands. -/
inductive Place where
  | beforeHeader
  | topLevel
  | inBlock (entity : Entity)
  deriving Repr, DecidableEq

/-- What has been read so far. An open block is in `place` and not yet among the entities. -/
structure Reading where
  place : Place := .beforeHeader
  entities : List Entity := []
  relationships : List Relationship := []
  /-- The lines in blocks that declare no attribute. -/
  rejected : List NumberedLine := []
  /-- The lines outside blocks that have no known form. -/
  ignored : List NumberedLine := []
  deriving Repr, DecidableEq

namespace Entity

/-- Puts an entity in the place of the one with its name, or at the end. -/
def put (entity : Entity) : List Entity → List Entity
  | [] => [entity]
  | other :: rest =>
      if other.name = entity.name then entity :: rest else other :: put entity rest

/-- Adds an entity at the end, unless there is one with its name. -/
def ensure (entity : Entity) (entities : List Entity) : List Entity :=
  if entities.any (·.name == entity.name) then entities else entities ++ [entity]

/-- The entity of a heading, without attributes. -/
def ofHeading (heading : Line.Heading) : Entity := ⟨heading.name, heading.displayName, []⟩

end Entity

namespace Reading

/-- Closes the open block, if there is one. -/
def close (reading : Reading) : Reading :=
  match reading.place with
  | .inBlock entity =>
      { reading with place := .topLevel, entities := entity.put reading.entities }
  | .beforeHeader => reading
  | .topLevel => reading

/-- Reads a line inside the block of `entity`. -/
def stepInBlock (reading : Reading) (entity : Entity) (line : NumberedLine) : Reading :=
  match Line.attribute? line.text.toList with
  | some attr =>
      { reading with
        place := .inBlock { entity with attributes := entity.attributes ++ [attr] } }
  | none => { reading with rejected := reading.rejected ++ [line] }

/-- Reads a line outside a block. -/
def stepTopLevel (reading : Reading) (line : NumberedLine) : Line.Form → Reading
  | .opening heading => { reading with place := .inBlock (.ofHeading heading) }
  | .relationship relationship =>
      { reading with
        entities :=
          Entity.ensure { name := relationship.second }
            (Entity.ensure { name := relationship.first } reading.entities)
        relationships := reading.relationships ++ [relationship] }
  | .mention heading =>
      { reading with entities := (Entity.ofHeading heading).ensure reading.entities }
  | .unknown => { reading with ignored := reading.ignored ++ [line] }
  | .empty | .header | .direction | .closing => reading

/-- Reads one line, which has no blanks around it. -/
def step (reading : Reading) (line : NumberedLine) : Reading :=
  match Line.classify line.text.toList, reading.place with
  | .header, .beforeHeader => { reading with place := .topLevel }
  | _, .beforeHeader => reading
  | .empty, _ | .header, _ | .direction, _ => reading
  | .closing, _ => reading.close
  | _, .inBlock entity => reading.stepInBlock entity line
  | form, .topLevel => reading.stepTopLevel line form

/-- The lines of a text, numbered and without the blanks around them. -/
def linesOf (text : String) : List NumberedLine :=
  (text.toList.splitOn '\n').mapIdx fun index line =>
    ⟨index + 1, String.ofList (Text.trim line)⟩

/-- Reads a list of lines. -/
def run (lines : List NumberedLine) : Reading := lines.foldl step {}

/-- Reads a text. -/
def ofText (text : String) : Reading := run (linesOf text)

/-- The schema that has been read; a block that is still open is part of it. -/
def schema (reading : Reading) : Schema := ⟨reading.close.entities, reading.relationships⟩

/-- What is wrong with a line in a block that declares no attribute. -/
def rejection (line : NumberedLine) : String :=
  "Line " ++ toString line.number ++ ": Unable to parse attribute: \"" ++ line.text ++ "\""

/-- One message for each rejected line, in order. -/
def errors (reading : Reading) : List String := reading.rejected.map rejection

/-- Whether every line in a block declared an attribute. -/
def succeeded (reading : Reading) : Bool := reading.rejected.isEmpty

/-- What is handed on of a reading. -/
structure Result where
  success : Bool
  schema : Schema
  /-- The messages, unless there are none. -/
  errors : Option (List String)
  deriving Repr, DecidableEq

/-- The result of a reading, which has a schema even when lines were rejected. -/
def result (reading : Reading) : Result where
  success := reading.succeeded
  schema := reading.schema
  errors := if reading.errors.isEmpty then none else some reading.errors

end Reading

end EntityDiagram
