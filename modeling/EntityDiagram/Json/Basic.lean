import EntityDiagram.Number.Binary64

/-! # JSON values

A record keeps its fields in order, repeated names included; `field?` finds the last field of a
name. A number keeps whether it was written as an integer.
-/

namespace EntityDiagram

/-- A number: an integer of any size, or a floating-point number. -/
inductive Numeral where
  | integer (value : Int)
  | float (value : Number.Binary64)
  deriving Repr, DecidableEq

/-- A JSON value. -/
inductive Json where
  | null
  | bool (value : Bool)
  | number (value : Numeral)
  | text (value : String)
  | list (items : List Json)
  | record (fields : List (String × Json))
  deriving Repr

namespace Json

/-- A count as a number. -/
def ofNat (n : Nat) : Json := number (.integer n)

/-- A text that may be missing. -/
def ofText? : Option String → Json
  | some s => text s
  | none => null

/-- An integer that may be missing. -/
def ofInt? : Option Int → Json
  | some n => number (.integer n)
  | none => null

/-- A list of texts. -/
def ofTexts (texts : List String) : Json := list (texts.map text)

/-- The last field of a name in a list of fields. -/
def lookup? (name : String) (fields : List (String × Json)) : Option Json :=
  (fields.reverse.find? (·.1 == name)).map (·.2)

/-- The last field of a name, if the value is a record that has one. -/
def field? (name : String) : Json → Option Json
  | record fields => lookup? name fields
  | _ => none

end Json

end EntityDiagram
