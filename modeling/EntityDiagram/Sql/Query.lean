import EntityDiagram.Entries
import EntityDiagram.Json.Basic
import EntityDiagram.Sql.Definition

/-! # Queries with parameters

Queries on one table. Values are never part of the text of a query: they are its parameters, and
numbered placeholders stand for them.
-/

namespace EntityDiagram

namespace Json

/-- Whether a value counts as given: it is not null, false, zero, or empty. -/
def isGiven : Json → Bool
  | null => false
  | bool value => value
  | number (.integer n) => n != 0
  | number (.float x) => !x.isZero
  | text s => !s.isEmpty
  | list items => !items.isEmpty
  | record fields => !fields.isEmpty

/-- The name of the kind of a value. -/
def kind : Json → String
  | null => "NoneType"
  | bool _ => "bool"
  | number (.integer _) => "int"
  | number (.float _) => "float"
  | text _ => "str"
  | list _ => "list"
  | record _ => "dict"

end Json

namespace Sql

/-- What queries need to know of a table: its name, its columns, and the column that identifies a
row. -/
structure Table where
  name : String
  columns : List String
  key : String
  deriving Repr, DecidableEq

/-- The table of an entity. Rows are identified by the first column of the primary key, or else by
the first column. -/
def Table.ofEntity (entity : Entity) : Table where
  name := tableName entity
  columns := entity.attributes.map columnName
  key :=
    match entity.primaryAttributes with
    | attr :: _ => columnName attr
    | [] => ((entity.attributes.map columnName).head?).getD ""

/-- The text of a query and the values of its placeholders, in order. -/
structure Query where
  tokens : List Token
  params : List Json
  deriving Repr

/-- The text of a query. -/
def Query.text (query : Query) : String := render query.tokens

/-- Values by distinct names, in order. -/
structure Row where
  entries : List (String × Json)
  distinct : (entries.map (·.1)).Nodup

namespace Row

/-- The row without values. -/
def empty : Row := ⟨[], by simp⟩

/-- Gives a name a value. A name that has one keeps its place. -/
def insert (row : Row) (name : String) (value : Json) : Row :=
  ⟨Entries.put name value row.entries, Entries.nodup_names_put row.distinct⟩

/-- The row that gives each name its last value, in the order of their first mention. -/
def ofPairs (pairs : List (String × Json)) : Row :=
  pairs.foldl (fun row (name, value) => row.insert name value) empty

end Row

/-- How to list the rows of a table. -/
structure ListOptions where
  limit : Json := .null
  offset : Json := .null
  orderBy : Json := .null
  direction : Json := .text "ASC"

/-- What can be wrong with a query. -/
inductive QueryError where
  /-- The direction of an order is not a text. -/
  | badDirection (value : Json)

/-- What a query error says. -/
def QueryError.message : QueryError → String
  | badDirection value => "'" ++ value.kind ++ "' object has no attribute 'upper'"

namespace Table

/-- The column to order by, if one is given and the table has it. -/
def orderColumn? (table : Table) (orderBy : Json) : Option String :=
  match orderBy with
  | .text column => if orderBy.isGiven && table.columns.contains column then some column else none
  | _ => none

/-- A column to order by that is given and that the table does not have. -/
def unknownOrder? (table : Table) (orderBy : Json) : Option String :=
  match orderBy with
  | .text column => if orderBy.isGiven && !table.columns.contains column then some column else none
  | _ => none

/-- Whether rows are listed in descending order. One that is not given, or not known, is ascending.
-/
def descending (direction : Json) : Except QueryError Bool :=
  if direction.isGiven then
    match direction with
    | .text word => .ok (Text.upper word == "DESC")
    | _ => .error (.badDirection direction)
  else .ok false

/-- The tokens that order a list of rows. -/
def orderTokens (table : Table) (options : ListOptions) : Except QueryError (List Token) :=
  match table.orderColumn? options.orderBy with
  | none => .ok []
  | some column =>
      match descending options.direction with
      | .error error => .error error
      | .ok true => .ok [.plain " ORDER BY ", .name column, .plain " DESC"]
      | .ok false => .ok [.plain " ORDER BY ", .name column, .plain " ASC"]

/-- Lists the rows. -/
def selectAll (table : Table) (options : ListOptions) : Except QueryError Query :=
  match table.orderTokens options with
  | .error error => .error error
  | .ok order =>
      let limits := if options.limit.isGiven then [options.limit] else []
      let offsets := if options.offset.isGiven then [options.offset] else []
      .ok {
        tokens :=
          [.plain "SELECT * FROM ", .name table.name] ++ order ++
            (if options.limit.isGiven then [.plain " LIMIT ", .slot 1] else []) ++
            (if options.offset.isGiven then [.plain " OFFSET ", .slot (limits.length + 1)] else [])
        params := limits ++ offsets }

/-- Finds the row of a key. -/
def selectById (table : Table) (id : Json) : Query where
  tokens := [.plain "SELECT * FROM ", .name table.name, .plain " WHERE ", .name table.key,
    .plain " = ", .slot 1]
  params := [id]

/-- The entries of a row that are columns of the table. -/
def knownEntries (table : Table) (row : Row) : List (String × Json) :=
  row.entries.filter fun entry => table.columns.contains entry.1

/-- Adds a row. Names that are no columns are left out; without any column the row has its default
values. -/
def insert (table : Table) (row : Row) : Query :=
  let entries := table.knownEntries row
  if entries.isEmpty then
    { tokens := [.plain "INSERT INTO ", .name table.name, .plain " DEFAULT VALUES RETURNING *"]
      params := [] }
  else
    { tokens :=
        [.plain "INSERT INTO ", .name table.name, .plain " ("] ++
          separatedBy ", " (entries.map fun entry => [.name entry.1]) ++ [.plain ") VALUES ("] ++
          separatedBy ", " (entries.mapIdx fun index _ => [.slot (index + 1)]) ++
          [.plain ") RETURNING *"]
      params := entries.map (·.2) }

/-- Changes the row of a key. The key itself is never changed; without any other column the row
stays as it is. -/
def update (table : Table) (id : Json) (row : Row) : Query :=
  let entries := (table.knownEntries row).filter fun entry => entry.1 != table.key
  if entries.isEmpty then
    { tokens := [.plain "UPDATE ", .name table.name, .plain " SET ", .name table.key, .plain " = ",
        .name table.key, .plain " WHERE ", .name table.key, .plain " = ", .slot 1,
        .plain " RETURNING *"]
      params := [id] }
  else
    { tokens :=
        [.plain "UPDATE ", .name table.name, .plain " SET "] ++
          separatedBy ", " (entries.mapIdx fun index entry =>
            [.name entry.1, .plain " = ", .slot (index + 1)]) ++
          [.plain " WHERE ", .name table.key, .plain " = ", .slot (entries.length + 1),
            .plain " RETURNING *"]
      params := entries.map (·.2) ++ [id] }

/-- Removes the row of a key. -/
def delete (table : Table) (id : Json) : Query where
  tokens := [.plain "DELETE FROM ", .name table.name, .plain " WHERE ", .name table.key,
    .plain " = ", .slot 1, .plain " RETURNING *"]
  params := [id]

/-- Counts the rows. -/
def count (table : Table) : Query where
  tokens := [.plain "SELECT COUNT(*) as count FROM ", .name table.name]
  params := []

end Table

end Sql

end EntityDiagram
