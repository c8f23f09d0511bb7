import EntityDiagram.Text.Ranges

/-! # Blank characters and trimming

Two sets of blank characters occur: `isBlank` separates the words of a diagram line, and `isSpace`,
which leaves out the four separators U+001C to U+001F, surrounds a number.
-/

namespace EntityDiagram.Text

/-- The blanks between the words of a line. -/
def blankRanges : List (Nat × Nat) :=
  [(0x09, 0x0D), (0x1C, 0x20), (0x85, 0x85), (0xA0, 0xA0), (0x1680, 0x1680), (0x2000, 0x200A),
   (0x2028, 0x2029), (0x202F, 0x202F), (0x205F, 0x205F), (0x3000, 0x3000)]

/-- The blanks around a number. -/
def spaceRanges : List (Nat × Nat) :=
  [(0x09, 0x0D), (0x20, 0x20), (0x85, 0x85), (0xA0, 0xA0), (0x1680, 0x1680), (0x2000, 0x200A),
   (0x2028, 0x2029), (0x202F, 0x202F), (0x205F, 0x205F), (0x3000, 0x3000)]

/-- Whether `c` is blank space between the words of a line. -/
def isBlank (c : Char) : Bool := inRanges blankRanges c.toNat

/-- Whether `c` is blank space around a number. -/
def isSpace (c : Char) : Bool := inRanges spaceRanges c.toNat

/-- Drops the characters that satisfy `p` from the end. -/
def dropEnd (p : Char → Bool) (cs : List Char) : List Char := (cs.reverse.dropWhile p).reverse

/-- Drops the characters that satisfy `p` from both ends. -/
def stripWhile (p : Char → Bool) (cs : List Char) : List Char := dropEnd p (cs.dropWhile p)

/-- The characters without the blanks at both ends. -/
def trim (cs : List Char) : List Char := stripWhile isBlank cs

end EntityDiagram.Text
