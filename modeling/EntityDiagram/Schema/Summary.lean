import EntityDiagram.Json.Basic
import EntityDiagram.Schema.Basic
import EntityDiagram.Text.Case

/-! # Summaries of a schema

What the commands show of a schema, and the search for an entity by its name in any letter case.
-/

namespace EntityDiagram

/-- An attribute, with the keys that it is part of. -/
def Attribute.summary (attr : Attribute) : Json :=
  .record
    [("name", .text attr.name), ("type", .text attr.typeName),
     ("is_primary_key", .bool attr.isPrimary), ("is_foreign_key", .bool attr.isForeign),
     ("is_unique", .bool attr.isUnique), ("keys", .ofTexts (attr.keys.map (·.code))),
     ("comment", .ofText? attr.comment)]

/-- An entity with its attributes, and the names of those in its keys. -/
def Entity.summary (entity : Entity) : Json :=
  .record
    [("name", .text entity.name), ("alias", .ofText? entity.displayName),
     ("attributes", .list (entity.attributes.map (·.summary))),
     ("primary_keys", .ofTexts (entity.primaryAttributes.map (·.name))),
     ("foreign_keys", .ofTexts (entity.foreignAttributes.map (·.name)))]

/-- An entity with the number of its attributes. -/
def Entity.outline (entity : Entity) : Json :=
  .record
    [("name", .text entity.name), ("alias", .ofText? entity.displayName),
     ("attribute_count", .ofNat entity.attributes.length)]

/-- A relationship as a sentence. -/
def Relationship.sentence (relationship : Relationship) : String :=
  relationship.first ++ " has " ++ relationship.secondCardinality.phrase ++ " " ++
    relationship.second ++ " (" ++ relationship.label ++ ")"

/-- A relationship with its cardinalities in words. -/
def Relationship.summary (relationship : Relationship) : Json :=
  .record
    [("from", .text relationship.first), ("to", .text relationship.second),
     ("from_cardinality", .text relationship.firstCardinality.code),
     ("to_cardinality", .text relationship.secondCardinality.code),
     ("from_description", .text relationship.firstCardinality.phrase),
     ("to_description", .text relationship.secondCardinality.phrase),
     ("identifying", .bool relationship.identifying), ("label", .text relationship.label),
     ("description", .text relationship.sentence)]

namespace Schema

/-- The number of attributes of all entities. -/
def attributeCount (schema : Schema) : Nat :=
  (schema.entities.flatMap (·.attributes)).length

/-- A whole schema. -/
def summary (schema : Schema) : Json :=
  .record
    [("entities", .list (schema.entities.map (·.summary))),
     ("relationships", .list (schema.relationships.map (·.summary))),
     ("summary", .record
       [("entity_count", .ofNat schema.entities.length),
        ("relationship_count", .ofNat schema.relationships.length),
        ("total_attributes", .ofNat schema.attributeCount)])]

/-- The entities with the numbers of their attributes. -/
def outlines (schema : Schema) : List Json := schema.entities.map (·.outline)

/-- Whether two names are the same but for letter case. -/
def sameName (a b : String) : Bool := Text.lower a == Text.lower b

/-- The first entity with a name, in any letter case. -/
def find? (schema : Schema) (name : String) : Option Entity :=
  schema.entities.find? fun entity => sameName entity.name name

/-- The relationships of an entity by its name in any letter case, or all of them when no name is
given. -/
def relationshipsOf (schema : Schema) (name : Option String) : List Relationship :=
  match name with
  | none => schema.relationships
  | some name =>
      if name.isEmpty then schema.relationships
      else
        schema.relationships.filter fun relationship =>
          sameName relationship.first name || sameName relationship.second name

/-- What is said when no entity has a name. -/
def notFound (schema : Schema) (name : String) : String :=
  "Entity \"" ++ name ++ "\" not found. Available entities: " ++ ", ".intercalate schema.names

/-- One entity and its relationships, if there is one with the name in any letter case. -/
def details? (schema : Schema) (name : String) : Option Json :=
  (schema.find? name).map fun entity =>
    .record
      [("entity", entity.summary),
       ("relationships", .list ((schema.relationshipsOf (some name)).map (·.summary)))]

end Schema

end EntityDiagram
