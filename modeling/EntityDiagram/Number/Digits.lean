/-! # Decimal digits

A natural number is written in decimal digits, without leading zeros. `valueOf` reads any run of
digits.
-/

namespace EntityDiagram.Number

/-- The value of a decimal digit. -/
def digitValue (c : Char) : Nat := c.toNat - '0'.toNat

/-- The value of a run of digits. -/
def valueOf (digits : List Char) : Nat := digits.foldl (fun n c => 10 * n + digitValue c) 0

/-- The decimal digits of a number. -/
def digitsOf (n : Nat) : List Char := Nat.toDigits 10 n

/-- An integer in decimal digits, with a minus sign when it is negative. -/
def integerText (n : Int) : List Char :=
  if n < 0 then '-' :: digitsOf n.natAbs else digitsOf n.natAbs

/-- How many digits an integer may have when it is read. -/
def maxDigits : Nat := 4300

end EntityDiagram.Number
