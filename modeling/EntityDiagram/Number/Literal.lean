import EntityDiagram.Number.Binary64
import EntityDiagram.Number.Digits
import EntityDiagram.Text.Blank

/-! # Numbers given as text

Settings and command options give numbers as text. An integer may have blanks around it, a sign,
leading zeros, single underscores between its digits, and a fraction of zeros. A floating-point
number may have an exponent, and may be infinite or not a number. Underscores are looked at only if
a number cannot be read without them.
-/

namespace EntityDiagram.Number

/-- A sign, if there is one, and the rest. -/
def sign : List Char → Bool × List Char
  | '-' :: rest => (true, rest)
  | '+' :: rest => (false, rest)
  | cs => (false, cs)

/-- What is wrong with the text of an integer. -/
inductive IntegerFault where
  | malformed
  | tooLong
  deriving Repr, DecidableEq

/-- The integer that plain digits give, with a minus sign before them or none. Too many digits are
noticed before anything that follows them. -/
def plainInteger (cs : List Char) : Except IntegerFault Int :=
  let (negative, body) :=
    match cs with
    | '-' :: rest => (true, rest)
    | _ => (false, cs)
  let digits := body.takeWhile Char.isDigit
  if digits.isEmpty || (digits.head? == some '0' && 1 < digits.length) then .error .malformed
  else if maxDigits < digits.length then .error .tooLong
  else if (body.dropWhile Char.isDigit).isEmpty then
    .ok (if negative then -(valueOf digits : Int) else valueOf digits)
  else .error .malformed

/-- The rest after zeros and underscores, given the one before. The last zero stays before a point
and at the end. -/
def afterZeros? (last : Char) : List Char → Option (List Char)
  | [] => some [last]
  | c :: rest =>
      if c = '0' || c = '_' then afterZeros? c rest
      else if c.isDigit || c = '-' then some (c :: rest)
      else if c = '.' then some (last :: c :: rest)
      else none

/-- The text after leading zeros, among which underscores may stand. A minus sign after them is the
sign of the number. -/
def dropLeadingZeros? : List Char → Option (List Char)
  | [] => none
  | c :: rest =>
      if c = '0' then afterZeros? c rest
      else if c.isDigit then some (c :: rest)
      else none

/-- The text before a point that only zeros follow, and the text itself otherwise. -/
def dropZeroFraction (cs : List Char) : List Char :=
  match cs.dropWhile (· != '.') with
  | _ :: fraction =>
      if !fraction.isEmpty && fraction.all (· == '0') then cs.takeWhile (· != '.') else cs
  | [] => cs

/-- The text without its underscores, when they are single and inside it. -/
def dropUnderscores? (cs : List Char) : Option (List Char) :=
  let groups := cs.splitOn '_'
  if 2 ≤ groups.length ∧ groups.all (fun group => !group.isEmpty) then some groups.flatten else none

/-- The plain digits for a text with blanks around it, a sign, leading zeros, a fraction of zeros or
underscores. -/
def plainDigits? (cs : List Char) : Option (List Char) :=
  let (negative, body) := sign (Text.stripWhile Text.isSpace cs)
  (dropLeadingZeros? body).map fun body =>
    let body := dropZeroFraction body
    let digits := (dropUnderscores? body).getD body
    if negative then '-' :: digits else digits

/-- The integer that a text gives. Only a text that starts with its digits can be too long. -/
def integer (s : String) : Except IntegerFault Int :=
  match plainInteger s.toList with
  | .ok n => .ok n
  | .error .tooLong => .error .tooLong
  | .error .malformed =>
      match (plainDigits? s.toList).map plainInteger with
      | some (.ok n) => .ok n
      | _ => .error .malformed

/-- The exponent of a decimal: nothing, or a letter e, a sign and digits. -/
def exponent? : List Char → Option Int
  | [] => some 0
  | c :: cs =>
      let (negative, digits) := sign cs
      if (c = 'e' || c = 'E') && !digits.isEmpty && digits.all Char.isDigit then
        some (if negative then -(valueOf digits : Int) else valueOf digits)
      else none

/-- The number that a decimal without a sign gives: digits, which may have a point before, between
or after them, and an exponent. -/
def decimal? (negative : Bool) (cs : List Char) : Option Binary64 :=
  let whole := cs.takeWhile Char.isDigit
  let rest := cs.dropWhile Char.isDigit
  let (fraction, rest) :=
    match rest with
    | '.' :: more => (more.takeWhile Char.isDigit, more.dropWhile Char.isDigit)
    | _ => ([], rest)
  if whole.isEmpty && fraction.isEmpty then none
  else
    (exponent? rest).map fun exponent =>
      Binary64.ofDecimal negative (valueOf (whole ++ fraction)) (exponent - fraction.length)

/-- The number that a text without blanks around it gives. -/
def plainFloat? (cs : List Char) : Option Binary64 :=
  let (negative, body) := sign cs
  let word := String.ofList (body.map Char.toLower)
  if word = "inf" || word = "infinity" then some (.infinite negative)
  else if word = "nan" then some .notANumber
  else decimal? negative body

/-- The floating-point number that a text gives. -/
def float? (s : String) : Option Binary64 :=
  match plainFloat? (Text.stripWhile Text.isSpace s.toList) with
  | some number => some number
  | none => (dropUnderscores? s.toList).bind plainFloat?

end EntityDiagram.Number
