import EntityDiagram.Json.Basic
import EntityDiagram.Number.Shortest

/-! # Writing JSON

A value is written over several lines, each level two spaces further in, and nothing between the
brackets of an empty list or record. Two styles differ in the characters of a text that are written
as they are: `ascii` keeps the printable ASCII characters, `unicode` all but the control characters.
-/

namespace EntityDiagram.Json

/-- Which characters of a text may stand for themselves. Quotes and backslashes never do. -/
abbrev Style := Char → Bool

/-- Texts hold printable ASCII characters only. -/
def ascii : Style := fun c => 0x20 ≤ c.toNat && c.toNat ≤ 0x7E

/-- Texts hold any characters but control characters. -/
def unicode : Style := fun c => 0x20 ≤ c.toNat

/-- A hexadecimal digit in small letters. -/
def hexDigit (n : Nat) : Char :=
  if n < 10 then Char.ofNat ('0'.toNat + n) else Char.ofNat ('a'.toNat + (n - 10))

/-- An escape with four hexadecimal digits. -/
def escapeUnit (n : Nat) : List Char :=
  ['\\', 'u', hexDigit (n / 0x1000 % 16), hexDigit (n / 0x100 % 16), hexDigit (n / 0x10 % 16),
    hexDigit (n % 16)]

/-- The escape of a character by its code point; one beyond U+FFFF takes two units. -/
def escapeCode (c : Char) : List Char :=
  let n := c.toNat
  if n < 0x10000 then escapeUnit n
  else escapeUnit (0xD800 + (n - 0x10000) / 0x400) ++ escapeUnit (0xDC00 + (n - 0x10000) % 0x400)

/-- A character inside a text. -/
def escape (style : Style) (c : Char) : List Char :=
  if c = '"' then ['\\', '"']
  else if c = '\\' then ['\\', '\\']
  else if c = '\n' then ['\\', 'n']
  else if c = '\r' then ['\\', 'r']
  else if c = '\t' then ['\\', 't']
  else if c = '\x08' then ['\\', 'b']
  else if c = '\x0c' then ['\\', 'f']
  else if style c then [c]
  else escapeCode c

/-- A text in quotes. -/
def textChars (style : Style) (s : String) : List Char :=
  '"' :: s.toList.flatMap (escape style) ++ ['"']

/-- A number. -/
def numeralChars : Numeral → List Char
  | .integer n => Number.integerText n
  | .float (.infinite negative) =>
      (if negative then ['-'] else []) ++ ['I', 'n', 'f', 'i', 'n', 'i', 't', 'y']
  | .float .notANumber => ['N', 'a', 'N']
  | .float x => x.text.toList

/-- The start of a line that is `indent` spaces in. -/
def lineStart (indent : Nat) : List Char := '\n' :: List.replicate indent ' '

mutual

/-- The characters of a value whose line is `indent` spaces in. -/
def chars (style : Style) (indent : Nat) : Json → List Char
  | null => ['n', 'u', 'l', 'l']
  | bool true => ['t', 'r', 'u', 'e']
  | bool false => ['f', 'a', 'l', 's', 'e']
  | number n => numeralChars n
  | text s => textChars style s
  | list [] => ['[', ']']
  | list (item :: items) =>
      '[' :: (lineStart (indent + 2) ++ chars style (indent + 2) item ++
        itemsChars style (indent + 2) items ++ lineStart indent) ++ [']']
  | record [] => ['{', '}']
  | record ((name, value) :: fields) =>
      '{' :: (lineStart (indent + 2) ++ textChars style name ++ [':', ' '] ++
        chars style (indent + 2) value ++ fieldsChars style (indent + 2) fields ++
        lineStart indent) ++ ['}']

/-- The characters of the further items of a list. -/
def itemsChars (style : Style) (indent : Nat) : List Json → List Char
  | [] => []
  | item :: items =>
      ',' :: (lineStart indent ++ chars style indent item) ++ itemsChars style indent items

/-- The characters of the further fields of a record. -/
def fieldsChars (style : Style) (indent : Nat) : List (String × Json) → List Char
  | [] => []
  | (name, value) :: fields =>
      ',' :: (lineStart indent ++ textChars style name ++ [':', ' '] ++ chars style indent value) ++
        fieldsChars style indent fields

end

/-- The text of a value. -/
def render (style : Style) (value : Json) : String := String.ofList (value.chars style 0)

end EntityDiagram.Json
