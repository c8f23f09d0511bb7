import EntityDiagram.Diagram.Line.Attribute
import EntityDiagram.Diagram.Line.Relationship

/-! # The forms of a diagram line

`classify` sorts a line by its form outside a block. Inside a block the lines that open blocks, link
entities or mention them are not told apart: each of them is offered to `attribute?`.
-/

namespace EntityDiagram.Line

/-- Whether `c` is the small letter `letter` in either case. The dotted capital I and the dotless
small i both count as an i. -/
def sameLetter (letter c : Char) : Bool :=
  c.toLower = letter || (letter = 'i' && (c = '\u0130' || c = '\u0131'))

/-- Whether a text is a word, which is given in small letters, in any case. -/
def sameWord : List Char → List Char → Bool
  | [], [] => true
  | letter :: word, c :: cs => sameLetter letter c && sameWord word cs
  | _, _ => false

/-- The word that starts a diagram. -/
def headerWord : List Char := ['e', 'r', 'd', 'i', 'a', 'g', 'r', 'a', 'm']

/-- The word that sets the layout of a diagram. -/
def directionWord : List Char := ['d', 'i', 'r', 'e', 'c', 't', 'i', 'o', 'n']

/-- The layouts of a diagram. -/
def directions : List (List Char) := [['t', 'b'], ['b', 't'], ['l', 'r'], ['r', 'l']]

/-- Whether a line is the header of a diagram. -/
def isHeader (cs : List Char) : Bool := sameWord headerWord (Text.trim cs)

/-- Whether a line sets the layout. -/
def isDirection (cs : List Char) : Bool :=
  let line := Text.trim cs
  let rest := line.drop directionWord.length
  sameWord directionWord (line.take directionWord.length) && rest.head?.any Text.isBlank &&
    directions.any fun word => sameWord word (skipBlanks rest)

/-- Whether a line is a remark. -/
def isRemark (cs : List Char) : Bool := ['%', '%'].isPrefixOf (skipBlanks cs)

/-- Whether a line closes a block. -/
def isClosing (cs : List Char) : Bool := Text.trim cs == ['}']

/-- The form of a line. -/
inductive Form where
  /-- A blank line or a remark. -/
  | empty
  | header
  | direction
  | closing
  | opening (heading : Heading)
  | relationship (relationship : Relationship)
  | mention (heading : Heading)
  | unknown
  deriving Repr, DecidableEq

/-- The form of a line outside a block. -/
def classify (cs : List Char) : Form :=
  if cs.all Text.isBlank || isRemark cs then .empty
  else if isHeader cs then .header
  else if isDirection cs then .direction
  else if isClosing cs then .closing
  else
    match opening? cs with
    | some heading => .opening heading
    | none =>
        match relationship? cs with
        | some relationship => .relationship relationship
        | none =>
            match mention? cs with
            | some heading => .mention heading
            | none => .unknown

end EntityDiagram.Line
