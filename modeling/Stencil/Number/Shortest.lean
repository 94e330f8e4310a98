import Stencil.Number.Binary64

/-! # Shortest decimals

A floating point number is printed with the fewest digits that read back as the same
number, and of the decimals with that many digits with the one nearest to it.
-/

namespace Stencil

/-- The positive number `digits * 10 ^ exponent`. -/
structure Decimal where
  digits : Nat
  exponent : Int
  deriving Repr, DecidableEq

namespace Decimal

/-- The same number without zeros at the end of its digits. `fuel` bounds how many zeros
    are looked for. -/
def withoutTrailingZeros (fuel : Nat) (value : Decimal) : Decimal :=
  match fuel with
  | 0 => value
  | fuel + 1 =>
    if value.digits ≠ 0 ∧ value.digits % 10 = 0 then
      withoutTrailingZeros fuel { digits := value.digits / 10, exponent := value.exponent + 1 }
    else value

end Decimal

namespace Binary64

/-- The numbers that read as a positive magnitude lie between its two halfway points. All
    three are whole multiples of the same quarter of the unit of the last mantissa bit. -/
structure Interval where
  /-- The lower halfway point, in quarters. -/
  lower : Nat
  /-- The magnitude itself, in quarters. -/
  middle : Nat
  /-- The upper halfway point, in quarters. -/
  upper : Nat
  /-- Whether the halfway points read as the magnitude, too. -/
  closed : Bool
  deriving Repr, DecidableEq

/-- The interval of a magnitude. Below a power of two the numbers lie twice as dense. -/
def interval (value : Binary64) : Interval :=
  let middle := 4 * value.mantissa
  let below :=
    if value.mantissa = 2 ^ (precision - 1) ∧ value.exponent ≠ leastExponent then 1 else 2
  { lower := middle - below, middle, upper := middle + 2, closed := value.mantissa % 2 = 0 }

/-- A point of the decimal grid and the quarters of a magnitude on one scale: `digits *
    10 ^ grid` is compared with `quarters * 2 ^ (exponent - 2)` as whole numbers. -/
def onScale (exponent grid : Int) : Nat × Nat :=
  let binary := exponent - 2
  (10 ^ grid.toNat * 2 ^ (-binary).toNat, 2 ^ binary.toNat * 10 ^ (-grid).toNat)

/-- The decimal of the grid `10 ^ grid` that is nearest to the magnitude among those that
    read as it; of two as near, the one with the even last digit. -/
def nearestOnGrid? (value : Binary64) (grid : Int) : Option Decimal :=
  let (decimalUnit, quarter) := onScale value.exponent grid
  let { lower, middle, upper, closed } := value.interval
  let readsBack (digits : Nat) : Bool :=
    let point := digits * decimalUnit
    if closed then lower * quarter ≤ point && point ≤ upper * quarter
    else lower * quarter < point && point < upper * quarter
  let below := middle * quarter / decimalUnit
  let above := below + 1
  let toBelow := middle * quarter - below * decimalUnit
  let toAbove := above * decimalUnit - middle * quarter
  let nearerBelow := toBelow < toAbove || (toBelow == toAbove && below % 2 == 0)
  if readsBack below && below ≠ 0 && (nearerBelow || !readsBack above) then
    some { digits := below, exponent := grid }
  else if readsBack above then some { digits := above, exponent := grid }
  else none

def digitCount (n : Nat) : Nat :=
  (Nat.toDigits 10 n).length

/-- The place of the leading decimal digit of a positive magnitude: the magnitude is at
    least `10 ^ place` and less than ten times that. Below one, `10 ^ -place` is the least
    power of ten that is not below the inverse. -/
def leadingPlace (value : Binary64) : Int :=
  let (numerator, denominator) := value.ratio
  let whole := numerator / denominator
  if whole ≠ 0 then (digitCount whole : Int) - 1
  else
    let inverse := (denominator + numerator - 1) / numerator
    0 - (digitCount (inverse - 1) : Int)

/-- The most digits that are ever needed to tell two numbers apart. -/
def enoughDigits : Nat := 17

/-- The shortest decimal that reads as a positive magnitude. -/
def shortest (value : Binary64) : Decimal :=
  let leading := value.leadingPlace
  let found := (List.range enoughDigits).findSome? fun (n : Nat) =>
    value.nearestOnGrid? (leading - (n : Int))
  (found.getD { digits := value.mantissa, exponent := value.exponent }).withoutTrailingZeros
    (enoughDigits + 1)

end Binary64

/-- How a floating point number is laid out. -/
structure FloatLayout where
  /-- The greatest number of places before the point that are written out. -/
  mostPlaces : Int
  /-- The greatest number of zeros written out between the point and the first digit. -/
  mostZeros : Int
  deriving Repr, DecidableEq

namespace FloatLayout

def zeros (n : Int) : List Char :=
  List.replicate n.toNat '0'

def exponentText (exponent : Int) : List Char :=
  if 0 ≤ exponent then '+' :: (toString exponent).toList else (toString exponent).toList

/-- A positive decimal in the layout: written out with a point if it fits, else with one
    digit before the point and an exponent. -/
def print (layout : FloatLayout) (value : Decimal) : List Char :=
  let digits := Nat.toDigits 10 value.digits
  -- the decimal point stands behind this many digits
  let places : Int := digits.length + value.exponent
  if 0 ≤ value.exponent ∧ places ≤ layout.mostPlaces then
    digits ++ zeros value.exponent ++ ['.', '0']
  else if 0 < places ∧ places ≤ layout.mostPlaces then
    digits.take places.toNat ++ '.' :: digits.drop places.toNat
  else if -layout.mostZeros ≤ places ∧ places ≤ 0 then
    '0' :: '.' :: zeros (-places) ++ digits
  else
    let fraction := digits.drop 1
    digits.take 1 ++ (if fraction.isEmpty then [] else '.' :: fraction) ++
      'e' :: exponentText (places - 1)

def printNumber (layout : FloatLayout) (value : Binary64) : List Char :=
  let magnitude :=
    if value.mantissa = 0 then ['0', '.', '0'] else layout.print value.shortest
  if value.negative then '-' :: magnitude else magnitude

end FloatLayout

end Stencil
