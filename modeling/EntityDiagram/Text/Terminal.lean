/-! # Terminal sequences

A terminal sequence is an escape character, a bracket, parameters and a letter. A terminal acts on
it instead of showing it. Text that is printed where there is no terminal has none.
-/

namespace EntityDiagram.Text

/-- Whether `c` is a parameter of a terminal sequence. -/
def isSequenceParameter (c : Char) : Bool := c = ';' || c = '?' || c.isDigit

/-- The length of the terminal sequence at the start of a text. -/
def sequenceLength? : List Char → Option Nat
  | '\x1b' :: '[' :: rest =>
      if (rest.dropWhile isSequenceParameter).head?.any Char.isAlpha then
        some ((rest.takeWhile isSequenceParameter).length + 3)
      else none
  | _ => none

/-- Leaves out terminal sequences, and before that a number of characters. -/
def dropSequencesFrom : Nat → List Char → List Char
  | _, [] => []
  | skip + 1, _ :: rest => dropSequencesFrom skip rest
  | 0, c :: rest =>
      match sequenceLength? (c :: rest) with
      | some length => dropSequencesFrom (length - 1) rest
      | none => c :: dropSequencesFrom 0 rest

/-- The text without its terminal sequences. -/
def dropSequences (s : String) : String := String.ofList (dropSequencesFrom 0 s.toList)

end EntityDiagram.Text
