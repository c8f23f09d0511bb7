/-! # Paths

A path is a number of leading slashes and the names between slashes. Empty names and single dots do
not count; two dots are kept, since where they lead depends on the files.
-/

namespace EntityDiagram

/-- A path as it is written. -/
structure Path where
  /-- No slash for a relative path, otherwise one, or two if there are exactly two. -/
  slashes : Nat
  parts : List String
  deriving Repr, DecidableEq

namespace Path

/-- The path that a text spells. -/
def ofText (s : String) : Path where
  slashes :=
    let count := (s.toList.takeWhile (· == '/')).length
    if count ≤ 2 then count else 1
  parts :=
    ((s.toList.splitOn '/').filter fun part => part != [] && part != ['.']).map String.ofList

/-- The text of a path. -/
def text (path : Path) : String :=
  if path.slashes = 0 ∧ path.parts = [] then "."
  else String.ofList (List.replicate path.slashes '/') ++ "/".intercalate path.parts

/-- The path without its last name. -/
def parent (path : Path) : Path := { path with parts := path.parts.dropLast }

/-- Whether a path starts at the root. -/
def isAbsolute (path : Path) : Bool := path.slashes != 0

end Path

end EntityDiagram
