import EntityDiagram.Diagram.Reading
import EntityDiagram.Schema.Check

/-! # Checking a diagram -/

namespace EntityDiagram.Diagram

/-- What is said of a text that has no header. -/
def missingHeader : String := "Diagram does not contain \"erDiagram\" declaration"

/-- Whether a word occurs in a text. -/
def occursIn (word : List Char) : List Char → Bool
  | [] => word.isEmpty
  | c :: rest => word.isPrefixOf (c :: rest) || occursIn word rest

/-- Whether the header word occurs anywhere in a text, in any case. -/
def mentionsHeader (text : String) : Bool := occursIn Line.headerWord (Text.lower text).toList

/-- What is wrong with a diagram: its rejected lines, a missing header, and the problems of its
schema, in this order. -/
def problems (text : String) : List String :=
  let reading := Reading.ofText text
  reading.errors ++ (if mentionsHeader text then [] else [missingHeader]) ++
    reading.schema.problems

/-- What a check comes to. -/
structure Verdict where
  valid : Bool
  errors : List String
  deriving Repr, DecidableEq

/-- Checks a diagram, which is valid when there is nothing wrong with it. -/
def check (text : String) : Verdict := ⟨(problems text).isEmpty, problems text⟩

end EntityDiagram.Diagram
