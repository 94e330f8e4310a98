import Stencil.Instances

/-! # Numbers of 64 bit floating point

A finite number of the format is a sign and a magnitude `mantissa * 2 ^ exponent`. The
mantissa has at most 53 bits, and has all of them unless the exponent is the least one.
Arithmetic is exact on the integers involved and rounded once, to the nearest magnitude
and to the even mantissa between two of them.
-/

namespace Stencil

/-- A finite number of 64 bit floating point. Zero has a sign, too. -/
structure Binary64 where
  negative : Bool
  mantissa : Nat
  exponent : Int
  deriving Repr, DecidableEq

namespace Binary64

def precision : Nat := 53

def leastExponent : Int := -1074

def greatestExponent : Int := 971

def zero (negative : Bool) : Binary64 :=
  { negative, mantissa := 0, exponent := leastExponent }

/-- The quotient of two numbers, as a nearest whole number; a half goes to the even one. -/
def roundedQuotient (numerator denominator : Nat) : Nat :=
  let below := numerator / denominator
  let twice := 2 * (numerator % denominator)
  if twice < denominator then below
  else if denominator < twice then below + 1
  else if below % 2 = 0 then below
  else below + 1

/-- `numerator / denominator` divided by `2 ^ exponent`, as a nearest whole number. -/
def roundedAt (numerator denominator : Nat) (exponent : Int) : Nat :=
  if 0 ≤ exponent then roundedQuotient numerator (denominator * 2 ^ exponent.toNat)
  else roundedQuotient (numerator * 2 ^ (-exponent).toNat) denominator

/-- The exponent at which the quotient has a mantissa of full precision, or the least
    exponent if that is greater. -/
def exponentFor (numerator denominator : Nat) : Int :=
  let guess : Int := (numerator.log2 : Int) - (denominator.log2 : Int) - (precision - 1 : Nat)
  let reaches :=
    if 0 ≤ guess then denominator * 2 ^ guess.toNat * 2 ^ (precision - 1) ≤ numerator
    else denominator * 2 ^ (precision - 1) ≤ numerator * 2 ^ (-guess).toNat
  max leastExponent (if reaches then guess else guess - 1)

/-- The number nearest to a quotient; `none` if that is beyond the greatest one. -/
def ofRatio? (negative : Bool) (numerator denominator : Nat) : Option Binary64 :=
  if numerator = 0 then some (zero negative)
  else
    let exponent := exponentFor numerator denominator
    let mantissa := roundedAt numerator denominator exponent
    let (mantissa, exponent) :=
      if mantissa = 2 ^ precision then (2 ^ (precision - 1), exponent + 1)
      else (mantissa, exponent)
    if greatestExponent < exponent then none else some { negative, mantissa, exponent }

/-- The number nearest to a whole number; `none` if that is beyond the greatest one. -/
def ofNat? (value : Nat) : Option Binary64 :=
  ofRatio? false value 1

/-- A magnitude as a quotient of whole numbers. -/
def ratio (value : Binary64) : Nat × Nat :=
  if 0 ≤ value.exponent then (value.mantissa * 2 ^ value.exponent.toNat, 1)
  else (value.mantissa, 2 ^ (-value.exponent).toNat)

/-- The rounded product; `none` if it is beyond the greatest number. -/
def mul? (one other : Binary64) : Option Binary64 :=
  let (numerator, denominator) := one.ratio
  let (numerator', denominator') := other.ratio
  ofRatio? (one.negative != other.negative) (numerator * numerator') (denominator * denominator')

/-- The rounded quotient; `none` if it is beyond the greatest number. -/
def div? (one other : Binary64) : Option Binary64 :=
  let (numerator, denominator) := one.ratio
  let (numerator', denominator') := other.ratio
  ofRatio? (one.negative != other.negative) (numerator * denominator') (denominator * numerator')

/-- The greatest power of ten with a number of its own magnitude. -/
def greatestPowerOfTen : Nat := 308

/-- Multiply by `10 ^ exponent` in steps that each round once: the powers of ten that are
    out of range are divided by in several steps. `none` if the product is out of range. -/
def scaleByTen? (value : Binary64) (exponent : Int) : Option Binary64 :=
  if exponent.natAbs ≤ greatestPowerOfTen then
    (ofNat? (10 ^ exponent.natAbs)).bind fun power =>
      if 0 ≤ exponent then value.mul? power else value.div? power
  else if value.mantissa = 0 then some value
  else if 0 ≤ exponent then none
  else
    (ofNat? (10 ^ greatestPowerOfTen)).bind fun power =>
      (value.div? power).bind (scaleByTen? · (exponent + greatestPowerOfTen))
termination_by exponent.natAbs
decreasing_by
  simp only [greatestPowerOfTen] at *
  omega

def neg (value : Binary64) : Binary64 :=
  { value with negative := !value.negative }

end Binary64

end Stencil
