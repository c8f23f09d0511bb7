import EntityDiagram.Schema.Name

/-! # Names in a diagram line

Each reader takes the characters of a line and gives what it read with the characters after it, or
nothing when the line does not continue that way.
-/

namespace EntityDiagram.Line

/-- The line after its leading blanks. -/
def skipBlanks (cs : List Char) : List Char := cs.dropWhile Text.isBlank

/-- Whether a bare name may start with `c`. -/
def isNameStart (c : Char) : Bool := c.isAlpha || c = '_'

/-- Whether a bare name may go on with `c`. -/
def isNameChar (c : Char) : Bool := c.isAlphanum || c = '_' || c = '-'

/-- The text up to the next `mark`, which must come, and the line after the mark. -/
def upTo? (mark : Char) (cs : List Char) : Option (List Char × List Char) :=
  match cs.dropWhile (· != mark) with
  | [] => none
  | _ :: rest => some (cs.takeWhile (· != mark), rest)

/-- A bare name, as long as possible. -/
def bareName? : List Char → Option (List Char × List Char)
  | [] => none
  | c :: rest =>
      if isNameStart c then some (c :: rest.takeWhile isNameChar, rest.dropWhile isNameChar)
      else none

/-- The text between quotes, which is not empty. -/
def quotedName? (cs : List Char) : Option (List Char × List Char) :=
  match upTo? '"' cs with
  | some (inner, rest) => if inner.isEmpty then none else some (inner, rest)
  | none => none

/-- The text between escaped quotes, which is not empty. -/
def escapedName? (cs : List Char) : Option (List Char × List Char) :=
  match upTo? '"' cs with
  | some (inner, rest) =>
      if inner.getLast? = some '\\' ∧ 2 ≤ inner.length then some (inner.dropLast, rest) else none
  | none => none

/-- A name: bare, between quotes, or between escaped quotes. The quotes are not part of it. -/
def name? : List Char → Option (List Char × List Char)
  | '"' :: rest => quotedName? rest
  | '\\' :: '"' :: rest => escapedName? rest
  | cs => bareName? cs

/-- A name and the name shown in its place. -/
structure Heading where
  name : String
  displayName : Option String
  deriving Repr, DecidableEq

/-- The name to show, between square brackets, if the line goes on with a bracket. It is trimmed
and unquoted. -/
def displayName? : List Char → Option (Option String × List Char)
  | '[' :: more =>
      match upTo? ']' more with
      | some (inner, rest) =>
          if inner.isEmpty then none
          else some (some (String.ofList (Name.unquoteChars (Text.trim inner))), rest)
      | none => none
  | cs => some (none, cs)

/-- A heading with the blanks around and inside it. -/
def heading? (cs : List Char) : Option (Heading × List Char) :=
  match name? (skipBlanks cs) with
  | none => none
  | some (name, rest) =>
      match displayName? (skipBlanks rest) with
      | none => none
      | some (displayName, rest) => some (⟨String.ofList name, displayName⟩, skipBlanks rest)

/-- A line that opens a block: a heading and an opening brace. -/
def opening? (cs : List Char) : Option Heading :=
  match heading? cs with
  | some (heading, '{' :: rest) => if rest.all Text.isBlank then some heading else none
  | _ => none

/-- A line that is a heading and nothing else. -/
def mention? (cs : List Char) : Option Heading :=
  match heading? cs with
  | some (heading, []) => some heading
  | _ => none

end EntityDiagram.Line
