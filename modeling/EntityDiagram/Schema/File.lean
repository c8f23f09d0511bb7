import EntityDiagram.Json.Printer
import EntityDiagram.Json.Reader
import EntityDiagram.Schema.Basic
import EntityDiagram.Text.Blank

/-! # Schema files

A schema is kept in a file as JSON. Reading checks the whole value and reports every fault with the
place where it is, in the order of the fields. Fields that are not known are left alone, and of a
repeated field the last counts.
-/

namespace EntityDiagram

/-! ## Writing -/

/-- An attribute as it is kept in a file. -/
def Attribute.toJson (attr : Attribute) : Json :=
  .record
    [("name", .text attr.name), ("type", .text attr.typeName),
     ("keys", .ofTexts (attr.keys.map (·.code))), ("comment", .ofText? attr.comment)]

/-- An entity as it is kept in a file. -/
def Entity.toJson (entity : Entity) : Json :=
  .record
    [("name", .text entity.name), ("alias", .ofText? entity.displayName),
     ("attributes", .list (entity.attributes.map (·.toJson)))]

/-- A relationship as it is kept in a file. -/
def Relationship.toJson (relationship : Relationship) : Json :=
  .record
    [("first_entity", .text relationship.first), ("second_entity", .text relationship.second),
     ("first_cardinality", .text relationship.firstCardinality.code),
     ("second_cardinality", .text relationship.secondCardinality.code),
     ("identifying", .bool relationship.identifying), ("label", .text relationship.label)]

/-- A schema as it is kept in a file. -/
def Schema.toJson (schema : Schema) : Json :=
  .record
    [("entities", .list (schema.entities.map (·.toJson))),
     ("relationships", .list (schema.relationships.map (·.toJson)))]

/-- The text of a schema's file. -/
def Schema.fileText (schema : Schema) : String := schema.toJson.render Json.unicode

/-! ## Reading -/

namespace SchemaFile

/-- A step from a value to a part of it. -/
inductive Step where
  | field (name : String)
  | index (position : Nat)
  deriving Repr, DecidableEq

/-- What is wrong with a value. -/
inductive FaultKind where
  | notObject
  | notArray
  | notString
  | missing
  | notKey
  | notCardinality
  | notBoolean
  | unclearBoolean
  | notNumber
  deriving Repr, DecidableEq

namespace FaultKind

/-- The short name of a fault. -/
def code : FaultKind → String
  | notObject => "model_type"
  | notArray => "list_type"
  | notString => "string_type"
  | missing => "missing"
  | notKey => "literal_error"
  | notCardinality => "literal_error"
  | notBoolean => "bool_type"
  | unclearBoolean => "bool_parsing"
  | notNumber => "float_parsing"

/-- What a fault says. -/
def message : FaultKind → String
  | notObject => "Input should be an object"
  | notArray => "Input should be a valid array"
  | notString => "Input should be a valid string"
  | missing => "Field required"
  | notKey => "Input should be 'PK', 'FK' or 'UK'"
  | notCardinality =>
      "Input should be 'ZERO_OR_ONE', 'EXACTLY_ONE', 'ZERO_OR_MORE' or 'ONE_OR_MORE'"
  | notBoolean => "Input should be a valid boolean"
  | unclearBoolean => "Input should be a valid boolean, unable to interpret input"
  | notNumber => "Input should be a valid number, unable to parse string as a number"

end FaultKind

/-- A fault and the way to it from the outermost value. -/
structure Fault where
  path : List Step
  kind : FaultKind
  deriving Repr, DecidableEq

/-- A value, or every fault in the data for it. -/
abbrev Checked (α : Type) := Except (List Fault) α

/-- Applies a function, keeping the faults of both sides in order. -/
def Checked.ap {α β : Type} (f : Checked (α → β)) (x : Checked α) : Checked β :=
  match f, x with
  | .ok f, .ok x => .ok (f x)
  | .ok _, .error faults => .error faults
  | .error faults, .ok _ => .error faults
  | .error faults, .error more => .error (faults ++ more)

/-- One fault at a value itself. -/
def fault {α : Type} (kind : FaultKind) : Checked α := .error [⟨[], kind⟩]

/-- Puts a step before the way to each fault. -/
def under {α : Type} (step : Step) : Checked α → Checked α
  | .ok x => .ok x
  | .error faults => .error (faults.map fun fault => { fault with path := step :: fault.path })

/-- A field that must be there. -/
def required {α : Type} (fields : List (String × Json)) (name : String)
    (read : Json → Checked α) : Checked α :=
  under (.field name)
    (match Json.lookup? name fields with
    | some value => read value
    | none => fault .missing)

/-- A field that may be left out. -/
def optional {α : Type} (fields : List (String × Json)) (name : String) (default : α)
    (read : Json → Checked α) : Checked α :=
  under (.field name)
    (match Json.lookup? name fields with
    | some value => read value
    | none => .ok default)

/-- A text. -/
def string : Json → Checked String
  | .text s => .ok s
  | _ => fault .notString

/-- A text or null. -/
def string? : Json → Checked (Option String)
  | .null => .ok none
  | .text s => .ok (some s)
  | _ => fault .notString

/-- Reads the items of a list from a position on. -/
def itemsFrom {α : Type} (read : Json → Checked α) : Nat → List Json → Checked (List α)
  | _, [] => .ok []
  | position, item :: items =>
      Checked.ap (Checked.ap (.ok (· :: ·)) (under (.index position) (read item)))
        (itemsFrom read (position + 1) items)

/-- A list. -/
def array {α : Type} (read : Json → Checked α) : Json → Checked (List α)
  | .list items => itemsFrom read 0 items
  | _ => fault .notArray

/-- A record. -/
def object {α : Type} (read : List (String × Json) → Checked α) : Json → Checked α
  | .record fields => read fields
  | _ => fault .notObject

/-- A key by its two letters. -/
def key : Json → Checked Key
  | .text s =>
      match Key.ofCode? s with
      | some key => .ok key
      | none => fault .notKey
  | _ => fault .notKey

/-- A cardinality by its word. -/
def cardinality : Json → Checked Cardinality
  | .text s =>
      match Cardinality.ofCode? s with
      | some cardinality => .ok cardinality
      | none => fault .notCardinality
  | _ => fault .notCardinality

/-- The words for true, in small letters. -/
def trueWords : List String := ["1", "on", "t", "true", "y", "yes"]

/-- The words for false, in small letters. -/
def falseWords : List String := ["0", "off", "f", "false", "n", "no"]

/-- A truth value by an integer. -/
def booleanOfInt (n : Int) : Checked Bool :=
  if n = 0 then .ok false else if n = 1 then .ok true else fault .unclearBoolean

/-- Whether a machine word holds an integer. -/
def fitsWord (n : Int) : Bool := -(Nat.pow 2 63 : Int) ≤ n && n < (Nat.pow 2 63 : Int)

/-- A truth value, or what stands for one: the integers zero and one, and a few words. -/
def boolean : Json → Checked Bool
  | .bool value => .ok value
  | .number (.integer n) => if fitsWord n then booleanOfInt n else fault .notBoolean
  | .number (.float x) =>
      match x.toInt? with
      | some n => if n.natAbs < Nat.pow 2 63 then booleanOfInt n else fault .notBoolean
      | none => fault .notBoolean
  | .text s =>
      let word := String.ofList (s.toList.map Char.toLower)
      if trueWords.contains word then .ok true
      else if falseWords.contains word then .ok false
      else fault .unclearBoolean
  | _ => fault .notBoolean

/-- The attribute that a record describes. -/
def attributeOf (fields : List (String × Json)) : Checked Attribute :=
  Checked.ap (Checked.ap (Checked.ap (Checked.ap (.ok Attribute.mk)
    (required fields "name" string))
    (required fields "type" string))
    (optional fields "keys" [] (array key)))
    (optional fields "comment" none string?)

/-- The entity that a record describes. -/
def entityOf (fields : List (String × Json)) : Checked Entity :=
  Checked.ap (Checked.ap (Checked.ap (.ok Entity.mk)
    (required fields "name" string))
    (optional fields "alias" none string?))
    (optional fields "attributes" [] (array (object attributeOf)))

/-- The relationship that a record describes. -/
def relationshipOf (fields : List (String × Json)) : Checked Relationship :=
  Checked.ap (Checked.ap (Checked.ap (Checked.ap (Checked.ap (Checked.ap (.ok Relationship.mk)
    (required fields "first_entity" string))
    (required fields "second_entity" string))
    (required fields "first_cardinality" cardinality))
    (required fields "second_cardinality" cardinality))
    (required fields "identifying" boolean))
    (required fields "label" string)

/-- The schema that a record describes. -/
def schemaOf (fields : List (String × Json)) : Checked Schema :=
  Checked.ap (Checked.ap (.ok Schema.mk)
    (optional fields "entities" [] (array (object entityOf))))
    (optional fields "relationships" [] (array (object relationshipOf)))

/-- The schema that a value describes. -/
def schema (value : Json) : Checked Schema := object schemaOf value

/-- Why a text is no schema file. -/
inductive ReadError where
  | empty
  | invalidJson
  | invalidSchema (faults : List Fault)
  deriving Repr, DecidableEq

/-- The schema that the text of a file describes. -/
def read (text : String) : Except ReadError Schema :=
  let content := Text.trim text.toList
  if content.isEmpty then .error .empty
  else
    match Json.parse? (String.ofList content) with
    | none => .error .invalidJson
    | some value =>
        match schema value with
        | .ok schema => .ok schema
        | .error faults => .error (.invalidSchema faults)

end SchemaFile

end EntityDiagram
