import EntityDiagram.Number.Binary64
import EntityDiagram.Number.Digits

/-! # Shortest decimal text of a floating-point number

A number is written with the fewest significant digits that read back as the same number; of several
such decimals the nearest is taken, and of two equally near ones the one with the even last digit.
Decimals from 0.0001 up to, but not including, 10^16 are written without an exponent.
-/

namespace EntityDiagram.Number.Binary64

/-- A positive number and the bounds of the interval of reals that round to it, all in units of
`2 ^ exponent`. -/
structure Neighbourhood where
  lower : Nat
  value : Nat
  upper : Nat
  exponent : Int
  /-- Whether the bounds themselves round to the number. -/
  closed : Bool

/-- The neighbourhood of `significand * 2 ^ exponent`. Below a power of two the numbers lie twice as
close, unless the least exponent is reached. -/
def neighbourhood (significand : Nat) (exponent : Int) : Neighbourhood where
  lower :=
    if significand = Nat.pow 2 52 ∧ leastExponent < exponent then 4 * significand - 1
    else 4 * significand - 2
  value := 4 * significand
  upper := 4 * significand + 2
  exponent := exponent - 2
  closed := significand % 2 = 0

/-- The point `n` of the neighbourhood's scale divided by `10 ^ power`, as a fraction. -/
def Neighbourhood.onGrid (around : Neighbourhood) (power : Int) (n : Nat) : Nat × Nat :=
  let (num, den) := scaleDown n 1 (-around.exponent)
  if 0 ≤ power then (num, den * Nat.pow 10 power.toNat) else (num * Nat.pow 10 (-power).toNat, den)

/-- Whether `n * 10 ^ power` lies in the neighbourhood. -/
def Neighbourhood.covers (around : Neighbourhood) (power : Int) (n : Nat) : Bool :=
  let (lowNum, lowDen) := around.onGrid power around.lower
  let (highNum, highDen) := around.onGrid power around.upper
  if around.closed then lowNum ≤ n * lowDen && n * highDen ≤ highNum
  else lowNum < n * lowDen && n * highDen < highNum

/-- The multiple of `10 ^ power` in the neighbourhood that is nearest to its number. -/
def Neighbourhood.nearest? (around : Neighbourhood) (power : Int) : Option Nat :=
  let (num, den) := around.onGrid power around.value
  let below := num / den
  let rounded := roundDiv num den
  let other := if rounded = below then below + 1 else below
  if around.covers power rounded then some rounded
  else if around.covers power other then some other
  else none

/-- The power of ten at or below a positive fraction. -/
def decimalExponent (num den : Nat) : Int :=
  let estimate : Int := (Nat.toDigits 10 num).length - (Nat.toDigits 10 den).length
  let reached :=
    if 0 ≤ estimate then den * Nat.pow 10 estimate.toNat ≤ num
    else den ≤ num * Nat.pow 10 (-estimate).toNat
  if reached then estimate else estimate - 1

/-- Removes the final zeros of a decimal. -/
def dropZeros : Nat → Nat → Int → Nat × Int
  | 0, digits, power => (digits, power)
  | fuel + 1, digits, power =>
      if digits % 10 = 0 ∧ digits ≠ 0 then dropZeros fuel (digits / 10) (power + 1)
      else (digits, power)

/-- The shortest decimal `digits * 10 ^ power` that reads back as `significand * 2 ^ exponent`,
which is not zero. Seventeen digits always suffice. -/
def shortest (significand : Nat) (exponent : Int) : Nat × Int :=
  let around := neighbourhood significand exponent
  let (num, den) := around.onGrid 0 around.value
  let top := decimalExponent num den
  let candidate := (List.range 17).findSome? fun (count : Nat) =>
    let power := top - count
    (around.nearest? power).map fun digits => (digits, power)
  let (digits, power) := candidate.getD (0, 0)
  dropZeros 20 digits power

/-- A decimal without an exponent, with at least one digit on either side of the point. -/
def positional (digits : List Char) (power : Int) : List Char :=
  if 0 ≤ power then digits ++ List.replicate power.toNat '0' ++ ['.', '0']
  else
    let places := (-power).toNat
    if places < digits.length then
      digits.take (digits.length - places) ++ '.' :: digits.drop (digits.length - places)
    else '0' :: '.' :: (List.replicate (places - digits.length) '0' ++ digits)

/-- A decimal with an exponent, which has a sign and at least two digits. -/
def scientific (digits : List Char) (exponent : Int) : List Char :=
  let fraction := if 1 < digits.length then '.' :: digits.drop 1 else []
  let size := digitsOf exponent.natAbs
  let padded := List.replicate (2 - size.length) '0' ++ size
  digits.take 1 ++ fraction ++ ['e', if exponent < 0 then '-' else '+'] ++ padded

/-- The text of a finite number without its sign. -/
def magnitudeText (significand : Nat) (exponent : Int) : List Char :=
  if significand = 0 then ['0', '.', '0']
  else
    let (number, power) := shortest significand exponent
    let digits := digitsOf number
    let leading := power + digits.length - 1
    if -4 ≤ leading ∧ leading < 16 then positional digits power else scientific digits leading

/-- The text of a number. -/
def text : Binary64 → String
  | finite negative significand exponent =>
      String.ofList ((if negative then ['-'] else []) ++ magnitudeText significand exponent)
  | infinite negative => if negative then "-inf" else "inf"
  | notANumber => "nan"

end EntityDiagram.Number.Binary64
