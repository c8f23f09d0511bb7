/-! # Binary floating-point numbers of 64 bits

A finite number is a significand of at most 53 bits times a power of two, whose exponent is at least
-1074. A decimal is rounded to the nearest such number, and of two equally near ones to the one with
the even significand.
-/

namespace EntityDiagram.Number

/-- A floating-point number; a finite one is `significand * 2 ^ exponent`. -/
inductive Binary64 where
  | finite (negative : Bool) (significand : Nat) (exponent : Int)
  | infinite (negative : Bool)
  | notANumber
  deriving Repr, DecidableEq

namespace Binary64

/-- The least exponent. -/
def leastExponent : Int := -1074

/-- The greatest exponent. -/
def greatestExponent : Int := 971

/-- The quotient rounded to the nearest integer, a half to the even one. -/
def roundDiv (num den : Nat) : Nat :=
  let quotient := num / den
  let rest := 2 * (num % den)
  if rest < den then quotient
  else if den < rest then quotient + 1
  else if quotient % 2 = 0 then quotient else quotient + 1

/-- The fraction `num / den` divided by `2 ^ exponent`, as a fraction. -/
def scaleDown (num den : Nat) (exponent : Int) : Nat × Nat :=
  if 0 ≤ exponent then (num, den * Nat.pow 2 exponent.toNat)
  else (num * Nat.pow 2 (-exponent).toNat, den)

/-- The exponent for a positive fraction: the significand then has 53 bits, unless the least
exponent is reached first. -/
def exponentFor (num den : Nat) : Int :=
  let estimate : Int := (Nat.log2 num : Int) - (Nat.log2 den : Int) - 53
  let (scaledNum, scaledDen) := scaleDown num den estimate
  let exponent := if Nat.pow 2 53 * scaledDen ≤ scaledNum then estimate + 1 else estimate
  max exponent leastExponent

/-- The number nearest to a positive fraction. -/
def ofFraction (negative : Bool) (num den : Nat) : Binary64 :=
  let exponent := exponentFor num den
  let (scaledNum, scaledDen) := scaleDown num den exponent
  let rounded := roundDiv scaledNum scaledDen
  let (significand, exponent) :=
    if rounded = Nat.pow 2 53 then (Nat.pow 2 52, exponent + 1) else (rounded, exponent)
  if greatestExponent < exponent then infinite negative else finite negative significand exponent

/-- The number nearest to `digits * 10 ^ exponent`. Decimals far outside the range are decided by
their size alone. -/
def ofDecimal (negative : Bool) (digits : Nat) (exponent : Int) : Binary64 :=
  let size : Int := (Nat.toDigits 10 digits).length + exponent
  if digits = 0 ∨ size < -330 then finite negative 0 leastExponent
  else if 310 < size then infinite negative
  else if 0 ≤ exponent then ofFraction negative (digits * Nat.pow 10 exponent.toNat) 1
  else ofFraction negative digits (Nat.pow 10 (-exponent).toNat)

/-- Whether the number is zero. -/
def isZero : Binary64 → Bool
  | finite _ significand _ => significand == 0
  | infinite _ => false
  | notANumber => false

/-- The integer that the number is, if it is one. -/
def toInt? : Binary64 → Option Int
  | finite negative significand exponent =>
      let sign : Int := if negative then -1 else 1
      if 0 ≤ exponent then some (sign * (significand * Nat.pow 2 exponent.toNat : Nat))
      else
        let divisor := Nat.pow 2 (-exponent).toNat
        if significand % divisor = 0 then some (sign * (significand / divisor : Nat)) else none
  | infinite _ => none
  | notANumber => none

end Binary64

end EntityDiagram.Number
