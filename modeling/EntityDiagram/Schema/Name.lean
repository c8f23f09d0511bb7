import EntityDiagram.Text.Blank
import EntityDiagram.Text.Case

/-! # Names and identifiers

A name may be written between quotes, plain or escaped; `unquote` takes them off. An identifier is
the form of a name used for tables and columns: `identifier` separates the words of a name by
underscores and writes them in small letters.
-/

namespace EntityDiagram.Name

/-- The text between two copies of `mark`, when they do not overlap. -/
def between? (mark cs : List Char) : Option (List Char) :=
  if 2 * mark.length ≤ cs.length ∧ mark.isPrefixOf cs ∧ mark.isSuffixOf cs then
    some ((cs.drop mark.length).take (cs.length - 2 * mark.length))
  else none

/-- The text without one pair of escaped quotes, or else without one pair of plain quotes. -/
def unquoteChars (cs : List Char) : List Char :=
  match between? ['\\', '"'] cs with
  | some inner => inner
  | none => (between? ['"'] cs).getD cs

/-- The name without the quotes around it. -/
def unquote (s : String) : String := String.ofList (unquoteChars s.toList)

/-- Whether a word ends after `a` because `b` is a capital letter. -/
def isWordBreak (a b : Char) : Bool := a.isLower && b.isUpper

/-- Puts an underscore between a small letter and a capital letter that follows it. -/
def breakWords : List Char → List Char
  | [] => []
  | [c] => [c]
  | a :: b :: rest =>
      if isWordBreak a b then a :: '_' :: breakWords (b :: rest) else a :: breakWords (b :: rest)

/-- Whether `c` separates words: a hyphen or a blank. -/
def isSeparator (c : Char) : Bool := c = '-' || Text.isBlank c

/-- Writes one underscore for each run of separators; `inRun` says whether one is under way. -/
def collapseFrom (inRun : Bool) : List Char → List Char
  | [] => []
  | c :: rest =>
      if isSeparator c then
        if inRun then collapseFrom true rest else '_' :: collapseFrom true rest
      else c :: collapseFrom false rest

/-- The table or column name for a name: words separated by underscores, in small letters. -/
def identifier (s : String) : String :=
  Text.lower (String.ofList (collapseFrom false (breakWords s.toList)))

end EntityDiagram.Name
