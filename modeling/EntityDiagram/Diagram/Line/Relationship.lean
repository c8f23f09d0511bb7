import EntityDiagram.Schema.Basic
import EntityDiagram.Diagram.Line.Name

/-! # Relationship lines

A relationship line is a name, a cardinality symbol, a connector, a cardinality symbol, a name, a
colon and a label. Blanks may stand around the names and the colon.
-/

namespace EntityDiagram

namespace Cardinality

/-- The symbols for cardinalities. -/
def symbols : List (List Char × Cardinality) :=
  [(['|', 'o'], zeroOrOne), (['o', '|'], zeroOrOne), (['|', '|'], exactlyOne),
   (['}', 'o'], zeroOrMore), (['o', '{'], zeroOrMore), (['{', 'o'], zeroOrMore),
   (['}', '|'], oneOrMore), (['|', '{'], oneOrMore), (['{', '|'], oneOrMore)]

/-- The cardinality of a symbol. -/
def ofSymbol? (symbol : List Char) : Option Cardinality := symbols.lookup symbol

/-- The cardinality of a symbol that may hold blanks; one that is not known means exactly one. -/
def ofSymbol (symbol : String) : Cardinality :=
  (ofSymbol? (symbol.toList.filter fun c => !Text.isBlank c)).getD exactlyOne

end Cardinality

namespace Line

/-- What stands between the two names of a relationship. -/
structure Link where
  firstCardinality : Cardinality
  identifying : Bool
  secondCardinality : Cardinality
  deriving Repr, DecidableEq

/-- A cardinality symbol. -/
def cardinality? : List Char → Option (Cardinality × List Char)
  | a :: b :: rest => (Cardinality.ofSymbol? [a, b]).map fun cardinality => (cardinality, rest)
  | _ => none

/-- A connector; the solid one marks an identifying relationship. -/
def connector? : List Char → Option (Bool × List Char)
  | '-' :: '-' :: rest => some (true, rest)
  | '.' :: '.' :: rest => some (false, rest)
  | _ => none

/-- Two cardinality symbols and the connector between them, without blanks. -/
def link? (cs : List Char) : Option (Link × List Char) :=
  match cardinality? cs with
  | none => none
  | some (first, rest) =>
      match connector? rest with
      | none => none
      | some (identifying, rest) =>
          match cardinality? rest with
          | none => none
          | some (second, rest) => some (⟨first, identifying, second⟩, rest)

/-- The last letter o of a bare name when the name has more letters: it may belong to the symbol
that follows instead. -/
def giveBack? (name : List Char) : Option (List Char) :=
  if name.getLast? = some 'o' ∧ 2 ≤ name.length then some name.dropLast else none

/-- The first name of a relationship and the link after it. A bare name is read as long as possible;
if no link follows, a final o is read as part of the link. -/
def firstEnd? (cs : List Char) : Option (List Char × Link × List Char) :=
  match name? cs with
  | none => none
  | some (name, rest) =>
      match link? (skipBlanks rest) with
      | some (link, rest) => some (name, link, rest)
      | none =>
          if cs.head?.any isNameStart then
            match giveBack? name with
            | some shorter => (link? ('o' :: rest)).map fun (link, rest) => (shorter, link, rest)
            | none => none
          else none

/-- Whether a label ends before `cs`: nothing follows, or one quote and blanks. -/
def endsLabel : List Char → Bool
  | [] => true
  | c :: rest => c = '"' && rest.all Text.isBlank

/-- The label that ends a line, without one quote on either side. A label of blanks alone, or a
single quote after a blank, is an empty label. -/
def label? (cs : List Char) : Option (List Char) :=
  let blankLabel := if cs.head?.any Text.isBlank then some [] else none
  match skipBlanks cs with
  | [] => blankLabel
  | ['"'] => blankLabel
  | c :: more =>
      let body := if c = '"' then more else c :: more
      let text := body.takeWhile (· != '"')
      if !text.isEmpty && endsLabel (body.dropWhile (· != '"')) then some (Text.trim text) else none

/-- The relationship that a line declares. -/
def relationship? (cs : List Char) : Option Relationship :=
  match firstEnd? (skipBlanks cs) with
  | none => none
  | some (first, link, rest) =>
      match name? (skipBlanks rest) with
      | none => none
      | some (second, rest) =>
          match skipBlanks rest with
          | ':' :: rest =>
              (label? rest).map fun label => {
                first := String.ofList first
                second := String.ofList second
                firstCardinality := link.firstCardinality
                secondCardinality := link.secondCardinality
                identifying := link.identifying
                label := String.ofList label }
          | _ => none

end Line

end EntityDiagram
