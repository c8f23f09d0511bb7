import EntityDiagram.Json.Basic
import EntityDiagram.Number.Digits

/-! # Reading JSON

The reader is strict: no comments, no comma after the last item, no control characters in texts, no
leading zeros, and every surrogate escape in a pair. Beyond the standard it takes infinite numbers
and NaN. Lists and records that hold something may be nested two hundred deep.
-/

namespace EntityDiagram.Json

/-- How deep lists and records may be nested. -/
def maxDepth : Nat := 200

/-- Whether `c` may stand between the tokens of a value. -/
def isLayout (c : Char) : Bool := c = ' ' || c = '\n' || c = '\r' || c = '\t'

/-- The characters after the leading layout. -/
def skipLayout (cs : List Char) : List Char := cs.dropWhile isLayout

/-- The value of a hexadecimal digit. -/
def hexValue? (c : Char) : Option Nat :=
  if c.isDigit then some (c.toNat - '0'.toNat)
  else if 'a' ≤ c ∧ c ≤ 'f' then some (10 + (c.toNat - 'a'.toNat))
  else if 'A' ≤ c ∧ c ≤ 'F' then some (10 + (c.toNat - 'A'.toNat))
  else none

/-- The value of four hexadecimal digits. -/
def unit? (a b c d : Char) : Option Nat :=
  match hexValue? a, hexValue? b, hexValue? c, hexValue? d with
  | some a, some b, some c, some d => some (0x1000 * a + 0x100 * b + 0x10 * c + d)
  | _, _, _, _ => none

/-- The character of an escape of one letter. -/
def unescape? (c : Char) : Option Char :=
  if c = '"' ∨ c = '\\' ∨ c = '/' then some c
  else if c = 'n' then some '\n'
  else if c = 'r' then some '\r'
  else if c = 't' then some '\t'
  else if c = 'b' then some '\x08'
  else if c = 'f' then some '\x0c'
  else none

/-- Whether a unit is the first half of a surrogate pair. -/
def isHighUnit (n : Nat) : Bool := 0xD800 ≤ n && n ≤ 0xDBFF

/-- Whether a unit is the second half of a surrogate pair. -/
def isLowUnit (n : Nat) : Bool := 0xDC00 ≤ n && n ≤ 0xDFFF

/-- The character of a surrogate pair. -/
def pairChar (high low : Nat) : Char :=
  Char.ofNat (0x10000 + 0x400 * (high - 0xD800) + (low - 0xDC00))

/-- The character of a unit, given the first half of a surrogate pair if one is pending; a unit that
is a first half itself gives no character yet. -/
inductive UnitStep where
  | char (c : Char)
  | pending (high : Nat)
  deriving Repr, DecidableEq

/-- What a unit gives after a pending first half. -/
def unitStep? : Option Nat → Nat → Option UnitStep
  | some high, unit => if isLowUnit unit then some (.char (pairChar high unit)) else none
  | none, unit =>
      if isHighUnit unit then some (.pending unit)
      else if isLowUnit unit then none
      else some (.char (Char.ofNat unit))

/-- The characters of a text after its opening quote, and what follows its closing quote. A pending
first half of a surrogate pair must be completed by the next characters. -/
def textFrom? : Option Nat → List Char → Option (List Char × List Char)
  | pending, '\\' :: 'u' :: a :: b :: c :: d :: rest =>
      match (unit? a b c d).bind (unitStep? pending) with
      | none => none
      | some (.pending high) => textFrom? (some high) rest
      | some (.char c) => (textFrom? none rest).map fun (cs, rest) => (c :: cs, rest)
  | none, '"' :: rest => some ([], rest)
  | none, '\\' :: c :: rest =>
      match unescape? c with
      | none => none
      | some c => (textFrom? none rest).map fun (cs, rest) => (c :: cs, rest)
  | none, c :: rest =>
      if c = '\\' ∨ c.toNat < 0x20 then none
      else (textFrom? none rest).map fun (cs, rest) => (c :: cs, rest)
  | none, [] => none
  | some _, _ => none

/-- The characters of a text after its opening quote, and what follows its closing quote. -/
def textBody? (cs : List Char) : Option (List Char × List Char) := textFrom? none cs

/-- The digits of a whole number: a zero alone, or digits that start with no zero. -/
def wholeDigits? : List Char → Option (List Char × List Char)
  | [] => none
  | c :: cs =>
      if c = '0' then if cs.head?.any Char.isDigit then none else some ([c], cs)
      else if c.isDigit then some (c :: cs.takeWhile Char.isDigit, cs.dropWhile Char.isDigit)
      else none

/-- The digits after a point, if there is one. -/
def fractionDigits? : List Char → Option (List Char × List Char)
  | '.' :: cs =>
      let digits := cs.takeWhile Char.isDigit
      if digits.isEmpty then none else some (digits, cs.dropWhile Char.isDigit)
  | cs => some ([], cs)

/-- The exponent, if there is one. -/
def exponentPart? : List Char → Option (Int × List Char)
  | [] => some (0, [])
  | c :: cs =>
      if c = 'e' || c = 'E' then
        let (negative, cs) :=
          match cs with
          | '-' :: rest => (true, rest)
          | '+' :: rest => (false, rest)
          | cs => (false, cs)
        let digits := cs.takeWhile Char.isDigit
        if digits.isEmpty then none
        else
          let size : Int := Number.valueOf digits
          some (if negative then -size else size, cs.dropWhile Char.isDigit)
      else some (0, c :: cs)

/-- A number without its sign. The digits before a point or an exponent are limited, too. -/
def unsigned? (negative : Bool) (cs : List Char) : Option (Numeral × List Char) :=
  match wholeDigits? cs with
  | none => none
  | some (whole, rest) =>
      if Number.maxDigits < whole.length then none
      else if !(rest.head?.any fun c => c = '.' || c = 'e' || c = 'E') then
        let size : Int := Number.valueOf whole
        some (.integer (if negative then -size else size), rest)
      else
        match fractionDigits? rest with
        | none => none
        | some (fraction, rest) =>
            (exponentPart? rest).map fun (exponent, rest) =>
              (.float (.ofDecimal negative (Number.valueOf (whole ++ fraction))
                (exponent - fraction.length)), rest)

/-- The characters after a word that must come next. -/
def word? (word cs : List Char) : Option (List Char) :=
  if word.isPrefixOf cs then some (cs.drop word.length) else none

/-- A number. -/
def numeral? : List Char → Option (Numeral × List Char)
  | 'N' :: cs => (word? ['a', 'N'] cs).map fun rest => (.float .notANumber, rest)
  | 'I' :: cs =>
      (word? ['n', 'f', 'i', 'n', 'i', 't', 'y'] cs).map fun rest =>
        (.float (.infinite false), rest)
  | '-' :: 'I' :: cs =>
      (word? ['n', 'f', 'i', 'n', 'i', 't', 'y'] cs).map fun rest =>
        (.float (.infinite true), rest)
  | '-' :: cs => unsigned? true cs
  | cs => unsigned? false cs

/-- What is separated by commas up to the bracket `close`. Every item takes at least one character,
so the first argument bounds their number. -/
def separated? {α : Type} (close : Char) (item? : List Char → Option (α × List Char)) :
    Nat → List Char → Option (List α × List Char)
  | 0, _ => none
  | fuel + 1, cs =>
      match item? (skipLayout cs) with
      | none => none
      | some (item, rest) =>
          match skipLayout rest with
          | ',' :: rest =>
              (separated? close item? fuel rest).map fun (items, rest) => (item :: items, rest)
          | c :: rest => if c = close then some ([item], rest) else none
          | [] => none

/-- A field of a record, whose value is read by `value?`. -/
def fieldWith? (value? : List Char → Option (Json × List Char)) :
    List Char → Option ((String × Json) × List Char)
  | '"' :: cs =>
      match textBody? cs with
      | none => none
      | some (name, rest) =>
          match skipLayout rest with
          | ':' :: rest =>
              (value? (skipLayout rest)).map fun (value, rest) =>
                ((String.ofList name, value), rest)
          | _ => none
  | _ => none

/-- A list after its opening bracket. An empty one is always within the depth. -/
def listWith? (depth : Nat) (value? : List Char → Option (Json × List Char)) (cs : List Char) :
    Option (Json × List Char) :=
  match skipLayout cs with
  | ']' :: rest => some (list [], rest)
  | cs =>
      if depth = 0 then none
      else (separated? ']' value? (cs.length + 1) cs).map fun (items, rest) => (list items, rest)

/-- A record after its opening brace. An empty one is always within the depth. -/
def recordWith? (depth : Nat) (value? : List Char → Option (Json × List Char)) (cs : List Char) :
    Option (Json × List Char) :=
  match skipLayout cs with
  | '}' :: rest => some (record [], rest)
  | cs =>
      if depth = 0 then none
      else
        (separated? '}' (fieldWith? value?) (cs.length + 1) cs).map fun (fields, rest) =>
          (record fields, rest)

/-- A value at the start of `cs`, with at most `depth` levels of nesting. -/
def value? : Nat → List Char → Option (Json × List Char)
  | depth, cs =>
      let inner :=
        match depth with
        | 0 => fun _ => none
        | depth + 1 => value? depth
      match cs with
      | [] => none
      | '"' :: cs => (textBody? cs).map fun (body, rest) => (text (String.ofList body), rest)
      | '[' :: cs => listWith? depth inner cs
      | '{' :: cs => recordWith? depth inner cs
      | 'n' :: cs => (word? ['u', 'l', 'l'] cs).map fun rest => (null, rest)
      | 't' :: cs => (word? ['r', 'u', 'e'] cs).map fun rest => (bool true, rest)
      | 'f' :: cs => (word? ['a', 'l', 's', 'e'] cs).map fun rest => (bool false, rest)
      | cs => (numeral? cs).map fun (n, rest) => (number n, rest)

/-- The value that a text consists of. -/
def parse? (s : String) : Option Json :=
  match value? maxDepth (skipLayout s.toList) with
  | some (value, rest) => if (skipLayout rest).isEmpty then some value else none
  | none => none

end EntityDiagram.Json
