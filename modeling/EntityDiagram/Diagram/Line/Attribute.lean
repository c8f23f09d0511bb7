import EntityDiagram.Schema.Basic
import EntityDiagram.Diagram.Line.Name
import EntityDiagram.Text.Word

/-! # Attribute lines

An attribute line is a type, a name, an optional list of keys and an optional comment in quotes,
separated by blanks. A star before the name puts the attribute into the primary key.
-/

namespace EntityDiagram.Line

/-- Whether the text between parentheses is a list of words separated by commas. -/
def isArgumentList (cs : List Char) : Bool :=
  (cs.splitOn ',').all fun piece =>
    let word := Text.trim piece
    !word.isEmpty && word.all Text.isWord

/-- The arguments of a type with their parentheses, if the line goes on with one. -/
def arguments? : List Char → Option (List Char × List Char)
  | '(' :: more =>
      match upTo? ')' more with
      | some (inner, rest) =>
          if isArgumentList inner then some ('(' :: inner ++ [')'], rest) else none
      | none => none
  | cs => some ([], cs)

/-- The mark of an array type, if it comes next. -/
def arrayMark : List Char → List Char × List Char
  | '[' :: ']' :: rest => (['[', ']'], rest)
  | cs => ([], cs)

/-- A type: a word that starts with a letter, its arguments, and the mark of an array. -/
def typeName? : List Char → Option (List Char × List Char)
  | [] => none
  | c :: cs =>
      if c.isAlpha then
        match arguments? (cs.dropWhile isNameChar) with
        | none => none
        | some (arguments, rest) =>
            let (mark, rest) := arrayMark rest
            some (c :: cs.takeWhile isNameChar ++ arguments ++ mark, rest)
      else none

/-- Whether two letters stand for a key, in any case. The Kelvin sign counts as a K. -/
def isKeyToken : List Char → Bool
  | [a, b] => ['P', 'p', 'F', 'f', 'U', 'u'].contains a && ['K', 'k', '\u212a'].contains b
  | _ => false

/-- Whether a text is a list of keys separated by commas. -/
def isKeyList (cs : List Char) : Bool :=
  (cs.splitOn ',').all fun piece => isKeyToken (Text.trim piece)

/-- The keys that a list of words names, without repetition, in the order of their first mention.
Other words are left out. -/
def keysOf (cs : List Char) : List Key :=
  ((cs.splitOn ',').filterMap fun piece =>
    Key.ofCode? (Text.upper (String.ofList (Text.trim piece)))).eraseDups

/-- A comment in quotes that ends the line. -/
def comment? : List Char → Option (List Char)
  | '"' :: more =>
      match upTo? '"' more with
      | some (inner, rest) => if rest.all Text.isBlank then some inner else none
      | none => none
  | _ => none

/-- The keys and the comment after an attribute's name, either of which may be missing. -/
def keysAndComment? (cs : List Char) : Option (List Key × Option (List Char)) :=
  match skipBlanks cs with
  | [] => some ([], none)
  | c :: more =>
      if !(cs.head?.any Text.isBlank) then none
      else if c = '"' then (comment? (c :: more)).map fun comment => ([], some comment)
      else
        let body := (c :: more).takeWhile (· != '"')
        let rest := (c :: more).dropWhile (· != '"')
        if !isKeyList body then none
        else if rest.isEmpty then some (keysOf body, none)
        else if !(body.getLast?.any Text.isBlank) then none
        else (comment? rest).map fun comment => (keysOf body, some comment)

/-- Adds the primary key in front, unless it is already among the keys. -/
def withPrimary (keys : List Key) : List Key :=
  if keys.contains .primary then keys else .primary :: keys

/-- A star before a name, if there is one. -/
def star : List Char → Bool × List Char
  | '*' :: rest => (true, rest)
  | cs => (false, cs)

/-- The attribute that a line declares. -/
def attribute? (cs : List Char) : Option Attribute :=
  match typeName? (skipBlanks cs) with
  | none => none
  | some (typeName, rest) =>
      if !(rest.head?.any Text.isBlank) then none
      else
        let (starred, rest) := star (skipBlanks rest)
        match bareName? rest with
        | none => none
        | some (name, rest) =>
            match keysAndComment? rest with
            | none => none
            | some (keys, comment) =>
                some {
                  name := String.ofList name
                  typeName := String.ofList typeName
                  keys := if starred then withPrimary keys else keys
                  comment := comment.map String.ofList }

end EntityDiagram.Line
