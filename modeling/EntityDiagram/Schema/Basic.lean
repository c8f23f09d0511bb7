/-! # Schemas of entities and relationships

The data that a diagram describes: entities with typed attributes, and relationships between two
entities, which they name.
-/

namespace EntityDiagram

/-- What an attribute contributes to the keys of its entity. -/
inductive Key where
  | primary
  | foreign
  | unique
  deriving Repr, DecidableEq

namespace Key

/-- The two letters that stand for a key in a diagram. -/
def code : Key → String
  | primary => "PK"
  | foreign => "FK"
  | unique => "UK"

/-- The key that two letters stand for. -/
def ofCode? (s : String) : Option Key := [primary, foreign, unique].find? (·.code == s)

@[simp] theorem ofCode?_code (key : Key) : ofCode? key.code = some key := by
  cases key <;> decide

end Key

/-- How many instances of one entity may stand at one end of a relationship. -/
inductive Cardinality where
  | zeroOrOne
  | exactlyOne
  | zeroOrMore
  | oneOrMore
  deriving Repr, DecidableEq

namespace Cardinality

/-- Every cardinality. -/
def all : List Cardinality := [zeroOrOne, exactlyOne, zeroOrMore, oneOrMore]

/-- The word that stands for a cardinality in schema files and summaries. -/
def code : Cardinality → String
  | zeroOrOne => "ZERO_OR_ONE"
  | exactlyOne => "EXACTLY_ONE"
  | zeroOrMore => "ZERO_OR_MORE"
  | oneOrMore => "ONE_OR_MORE"

/-- A cardinality in plain words. -/
def phrase : Cardinality → String
  | zeroOrOne => "zero or one"
  | exactlyOne => "exactly one"
  | zeroOrMore => "zero or more"
  | oneOrMore => "one or more"

/-- The cardinality that a word stands for. -/
def ofCode? (s : String) : Option Cardinality := all.find? (·.code == s)

@[simp] theorem ofCode?_code (cardinality : Cardinality) :
    ofCode? cardinality.code = some cardinality := by
  cases cardinality <;> decide

end Cardinality

/-- A typed field of an entity. The type is the word that the diagram uses for it. -/
structure Attribute where
  name : String
  typeName : String
  keys : List Key := []
  comment : Option String := none
  deriving Repr, DecidableEq

namespace Attribute

/-- Whether the attribute is part of the primary key. -/
def isPrimary (attr : Attribute) : Bool := attr.keys.contains .primary

/-- Whether the attribute refers to another entity. -/
def isForeign (attr : Attribute) : Bool := attr.keys.contains .foreign

/-- Whether the values of the attribute are unique. -/
def isUnique (attr : Attribute) : Bool := attr.keys.contains .unique

end Attribute

/-- An entity: a name, the name shown in its place if there is one, and its attributes. -/
structure Entity where
  name : String
  displayName : Option String := none
  attributes : List Attribute := []
  deriving Repr, DecidableEq

namespace Entity

/-- The attributes of the primary key, in order. -/
def primaryAttributes (entity : Entity) : List Attribute := entity.attributes.filter (·.isPrimary)

/-- The attributes that refer to other entities, in order. -/
def foreignAttributes (entity : Entity) : List Attribute := entity.attributes.filter (·.isForeign)

end Entity

/-- A relationship between two entities, which it names. -/
structure Relationship where
  first : String
  second : String
  firstCardinality : Cardinality
  secondCardinality : Cardinality
  identifying : Bool
  label : String
  deriving Repr, DecidableEq

/-- Entities and relationships in the order of their declaration. -/
structure Schema where
  entities : List Entity := []
  relationships : List Relationship := []
  deriving Repr, DecidableEq

namespace Schema

/-- The names of the entities, in order. -/
def names (schema : Schema) : List String := schema.entities.map (·.name)

/-- The first entity with exactly this name. -/
def entity? (schema : Schema) (name : String) : Option Entity :=
  schema.entities.find? (·.name == name)

end Schema

end EntityDiagram
