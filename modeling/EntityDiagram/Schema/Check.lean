import EntityDiagram.Schema.Basic

/-! # Consistency of a schema

A schema is consistent when its entities have different names and every end of a relationship names
an entity.
-/

namespace EntityDiagram.Schema

/-- The names that occur earlier in the list or in `seen`, once for each such occurrence. -/
def repeatsFrom (seen : List String) : List String → List String
  | [] => []
  | name :: rest =>
      if seen.contains name then name :: repeatsFrom seen rest else repeatsFrom (name :: seen) rest

/-- Every occurrence of an entity's name after its first, in order. -/
def duplicates (schema : Schema) : List String := repeatsFrom [] schema.names

/-- The ends of all relationships, in order, the first before the second. -/
def endpoints (schema : Schema) : List String :=
  schema.relationships.flatMap fun relationship => [relationship.first, relationship.second]

/-- The ends of relationships that name no entity, one for each occurrence. -/
def dangling (schema : Schema) : List String :=
  schema.endpoints.filter fun name => !schema.names.contains name

/-- What is wrong with a schema: one message for all repeated names, then one for each end that
names no entity. -/
def problems (schema : Schema) : List String :=
  (if schema.duplicates.isEmpty then []
    else ["Duplicate entity names: " ++ ", ".intercalate schema.duplicates]) ++
    schema.dangling.map fun name => "Relationship references non-existent entity: " ++ name

end EntityDiagram.Schema
