import EntityDiagram.Text.Blank
import EntityDiagram.Text.Case
import EntityDiagram.Text.Word

/-! # Column types

The type of a column for a type word of a diagram. Letter case and blanks around the word do not
matter, arguments replace the usual ones of the column type, each array mark is kept, and a word
that is not known means text.
-/

namespace EntityDiagram.Sql

/-- A column type: its name, and the arguments that it has unless others are given. -/
structure ColumnType where
  name : String
  arguments : String := ""
  deriving Repr, DecidableEq

namespace ColumnType

/-- The column types of the known words. -/
def known : List (String × ColumnType) :=
  [("int", ⟨"INTEGER", ""⟩), ("integer", ⟨"INTEGER", ""⟩), ("bigint", ⟨"BIGINT", ""⟩),
   ("smallint", ⟨"SMALLINT", ""⟩), ("serial", ⟨"SERIAL", ""⟩), ("bigserial", ⟨"BIGSERIAL", ""⟩),
   ("decimal", ⟨"DECIMAL", "(10,2)"⟩), ("numeric", ⟨"NUMERIC", ""⟩), ("float", ⟨"FLOAT", ""⟩),
   ("real", ⟨"REAL", ""⟩), ("double", ⟨"DOUBLE PRECISION", ""⟩), ("string", ⟨"VARCHAR", "(255)"⟩),
   ("varchar", ⟨"VARCHAR", "(255)"⟩), ("text", ⟨"TEXT", ""⟩), ("char", ⟨"CHAR", "(1)"⟩),
   ("boolean", ⟨"BOOLEAN", ""⟩), ("bool", ⟨"BOOLEAN", ""⟩), ("date", ⟨"DATE", ""⟩),
   ("time", ⟨"TIME", ""⟩), ("datetime", ⟨"TIMESTAMP", ""⟩), ("timestamp", ⟨"TIMESTAMP", ""⟩),
   ("timestamptz", ⟨"TIMESTAMPTZ", ""⟩), ("uuid", ⟨"UUID", ""⟩), ("json", ⟨"JSON", ""⟩),
   ("jsonb", ⟨"JSONB", ""⟩), ("bytea", ⟨"BYTEA", ""⟩), ("blob", ⟨"BYTEA", ""⟩)]

/-- The column type of a known word. -/
def ofWord? (word : List Char) : Option ColumnType := known.lookup (String.ofList word)

/-- The text of a column type with its usual arguments. -/
def text (type : ColumnType) : String := type.name ++ type.arguments

/-- The text of a column type with other arguments. -/
def textWith (type : ColumnType) (arguments : List Char) : String :=
  type.name ++ "(" ++ String.ofList arguments ++ ")"

end ColumnType

/-- A word and the arguments in parentheses after it, which end the text, are not empty and stand on
one line. -/
def splitArguments? (cs : List Char) : Option (List Char × List Char) :=
  let word := cs.takeWhile Text.isWord
  match cs.dropWhile Text.isWord with
  | '(' :: rest =>
      let arguments := rest.dropLast
      if word.isEmpty || arguments.isEmpty || arguments.contains '\n' ||
          rest.getLast? != some ')' then
        none
      else some (word, arguments)
  | _ => none

/-- The column type of a type word that has no array mark and is in small letters. -/
def baseType (cs : List Char) : String :=
  match splitArguments? cs with
  | some (word, arguments) =>
      match ColumnType.ofWord? word with
      | some type => type.textWith arguments
      | none => "TEXT"
  | none =>
      match ColumnType.ofWord? cs with
      | some type => type.text
      | none => "TEXT"

/-- Takes the array marks and the blanks before them off a text, which is given backwards, and
counts the marks. -/
def peelArrays : List Char → List Char × Nat
  | ']' :: '[' :: rest =>
      let (base, count) := peelArrays (rest.dropWhile Text.isBlank)
      (base, count + 1)
  | cs => (cs, 0)
termination_by cs => cs.length
decreasing_by
  have := (List.dropWhile_sublist (p := Text.isBlank) (l := rest)).length_le
  simp
  omega

/-- The column type for a type word. -/
def columnType (typeName : String) : String :=
  let (base, count) := peelArrays (Text.trim (Text.lower typeName).toList).reverse
  baseType base.reverse ++ String.join (List.replicate count "[]")

end EntityDiagram.Sql
