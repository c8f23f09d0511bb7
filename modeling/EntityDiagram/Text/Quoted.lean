import EntityDiagram.Text.Printable

/-! # Quoted text in messages

A text is put between single quotes, or between double quotes when it holds a single quote and no
double quote. Backslashes, the quote itself, and characters that are not printable are escaped.
Where no quotes are put, only control characters are escaped.
-/

namespace EntityDiagram.Text

/-- The lowest `count` hexadecimal digits of a number, in small letters. -/
def hexDigits (count n : Nat) : List Char :=
  (List.range count).reverse.map fun place => (n / Nat.pow 16 place % 16).digitChar

/-- The escape of a character by its code point, as short as the code point allows. -/
def codeEscape (n : Nat) : List Char :=
  if n < 0x100 then '\\' :: 'x' :: hexDigits 2 n
  else if n < 0x10000 then '\\' :: 'u' :: hexDigits 4 n
  else '\\' :: 'U' :: hexDigits 8 n

/-- A character of a text between quotes. -/
def quoteChar (mark c : Char) : List Char :=
  if c = mark || c = '\\' then ['\\', c]
  else if c = '\n' then ['\\', 'n']
  else if c = '\r' then ['\\', 'r']
  else if c = '\t' then ['\\', 't']
  else if isPrintable c then [c]
  else codeEscape c.toNat

/-- The text between quotes. -/
def quoted (s : String) : String :=
  let cs := s.toList
  let mark := if cs.contains '\'' && !cs.contains '"' then '"' else '\''
  String.ofList (mark :: cs.flatMap (quoteChar mark) ++ [mark])

/-- Whether `c` is a control character. -/
def isControl (c : Char) : Bool := c.toNat < 0x20 || (0x7F ≤ c.toNat && c.toNat < 0xA0)

/-- The text with its control characters written by their codes. -/
def showControls (s : String) : String :=
  String.ofList (s.toList.flatMap fun c => if isControl c then codeEscape c.toNat else [c])

end EntityDiagram.Text
