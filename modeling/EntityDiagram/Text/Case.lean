import EntityDiagram.Text.Case.Context
import EntityDiagram.Text.Case.LowerRuns
import EntityDiagram.Text.Case.UpperRuns

/-! # Small and capital letters

`lower` and `upper` give the full case forms of a text in any script. Two letters do not have a
single small form: the dotted capital I becomes a small i with a dot above, and a capital sigma at
the end of a word has a form of its own.
-/

namespace EntityDiagram.Text

/-- Whether the nearest character that is not transparent has letter case. -/
def startsCased (cs : List Char) : Bool :=
  match cs.dropWhile isTransparent with
  | [] => false
  | c :: _ => isCased c

/-- The small form of one character; `final` says that it ends a word. -/
def lowerChar (final : Bool) (c : Char) : List Char :=
  if c = '\u03a3' then [if final then '\u03c2' else '\u03c3']
  else if c = '\u0130' then ['i', '\u0307']
  else [Char.ofNat (shiftBy lowerRuns c.toNat)]

/-- The small forms of a text; `after` says whether a letter with case stands before it. -/
def lowerFrom (after : Bool) : List Char → List Char
  | [] => []
  | c :: rest =>
      lowerChar (after && !startsCased rest) c ++
        lowerFrom (if isTransparent c then after else isCased c) rest

/-- The text in small letters. -/
def lower (s : String) : String := String.ofList (lowerFrom false s.toList)

/-- The capital form of one character. -/
def upperChar (c : Char) : List Char :=
  match upperExpansions.lookup c.toNat with
  | some image => image.map Char.ofNat
  | none => [Char.ofNat (shiftBy upperRuns c.toNat)]

/-- The text in capital letters. -/
def upper (s : String) : String := String.ofList (s.toList.flatMap upperChar)

end EntityDiagram.Text
