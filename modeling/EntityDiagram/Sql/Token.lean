/-! # Tokens of SQL text

A statement is written as plain words, quoted names and numbered placeholders. Names are put between
quotes as they are.
-/

namespace EntityDiagram.Sql

/-- A piece of a statement's text. -/
inductive Token where
  /-- Text that stands for itself. -/
  | plain (text : String)
  /-- A name between quotes. -/
  | name (text : String)
  /-- A placeholder for the parameter of this number. -/
  | slot (number : Nat)
  deriving Repr, DecidableEq

/-- The text of a token. -/
def Token.render : Token → String
  | .plain text => text
  | .name text => "\"" ++ text ++ "\""
  | .slot number => "$" ++ toString number

/-- The text of a list of tokens. -/
def render (tokens : List Token) : String := String.join (tokens.map (·.render))

/-- Lists of tokens with `separator` between them. -/
def separatedBy (separator : String) (parts : List (List Token)) : List Token :=
  List.intercalate [.plain separator] parts

end EntityDiagram.Sql
