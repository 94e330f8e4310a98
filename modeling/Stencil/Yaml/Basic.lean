import Stencil.Number.Binary64
import Stencil.Text.Basic

/-! # Plain spellings

What a scalar means is not said by a document: a plain scalar is a number, a truth value or
null where its spelling is one and the reader asks for it.
-/

namespace Stencil

namespace Yaml

def isNull (text : List Char) : Bool :=
  ["null", "Null", "NULL", "~"].contains (String.ofList text)

/-- The truth value that the plain text spells. -/
def truth? (text : List Char) : Option Bool :=
  if ["true", "True", "TRUE"].contains (String.ofList text) then some true
  else if ["false", "False", "FALSE"].contains (String.ofList text) then some false
  else none

/-- The text without a plus sign before it. -/
def withoutPlus (text : List Char) : List Char :=
  (Text.dropLead? ['+'] text).getD text

/-- The text without a sign before it. -/
def withoutSign (text : List Char) : List Char :=
  match text with
  | '+' :: rest | '-' :: rest => rest
  | _ => text

/-- Whether the text is digits that begin with a needless zero. Such digits are a text. -/
def isPaddedNumeral (text : List Char) : Bool :=
  match withoutSign text with
  | '0' :: c :: rest => (c :: rest).all Char.isDigit
  | _ => false

/-- The bases of numbers that are told by a letter behind a zero. -/
def letterBases : List (Char × Nat) :=
  [('x', 16), ('o', 8), ('b', 2)]

/-- The value of a digit or letter as a digit. -/
def digitValue? (c : Char) : Option Nat :=
  if c.isDigit then some (c.toNat - '0'.toNat)
  else if c.isUpper then some (c.toNat - 'A'.toNat + 10)
  else if c.isLower then some (c.toNat - 'a'.toNat + 10)
  else none

/-- The number that digits of a base spell, at least one of them. -/
def numeral? (base : Nat) : List Char → Option Nat
  | [] => none
  | digits => digits.foldlM
      (fun value c => do
        let digit ← digitValue? c
        if digit < base then some (value * base + digit) else none) 0

/-- The number that an unsigned plain text spells, in the base its letter tells or in base
    ten. It may be greater than any number of a setting. -/
def unsignedText? (text : List Char) : Option Nat :=
  match text with
  | '0' :: letter :: digits =>
    match letterBases.lookup letter with
    | some base => numeral? base digits
    | none => if isPaddedNumeral text then none else numeral? 10 text
  | _ => numeral? 10 text

/-- The whole number, not negative, that the plain text spells. -/
def unsigned? (text : List Char) : Option Nat :=
  unsignedText? (withoutPlus text)

/-- The exponent of ten that the text spells, which is zero if there is no text. -/
def exponent? (text : List Char) : Option Int :=
  match text with
  | [] => some 0
  | c :: rest =>
    if c = 'e' || c = 'E' then
      (numeral? 10 (withoutSign rest)).map fun value =>
        if rest.head? = some '-' then -(value : Int) else (value : Int)
    else none

/-- The digits of a decimal number before and behind its point, and its exponent of ten. -/
def decimalParts? (text : List Char) : Option (List Char × List Char × Int) :=
  let whole := text.takeWhile Char.isDigit
  match text.dropWhile Char.isDigit with
  | '.' :: rest =>
    let fraction := rest.takeWhile Char.isDigit
    if whole.isEmpty && fraction.isEmpty then none
    else (exponent? (rest.dropWhile Char.isDigit)).map fun exponent => (whole, fraction, exponent)
  | rest =>
    if whole.isEmpty then none
    else (exponent? rest).map fun exponent => (whole, [], exponent)

/-- Whether the text is a decimal number, with a point or without, that floating point of 64
    bits has a finite number near to. -/
def isDecimal (text : List Char) : Bool :=
  match decimalParts? text with
  | none => false
  | some (whole, fraction, exponent) =>
    let digits := (whole ++ fraction).dropWhile (· == '0')
    let shift := exponent - (fraction.length : Int)
    let magnitude := (digits.length : Int) + shift
    match numeral? 10 digits with
    | none => true
    | some value =>
      if magnitude ≤ Binary64.greatestPowerOfTen then true
      else if magnitude ≤ Binary64.greatestPowerOfTen + 1 then
        (Binary64.ofRatio? false (value * 10 ^ shift.toNat) (10 ^ (-shift).toNat)).isSome
      else false

/-- The spellings of numbers that are not finite, without a sign. -/
def unlimitedSpellings : List String :=
  [".inf", ".Inf", ".INF"]

/-- The spellings of what is no number at all. -/
def undefinedSpellings : List String :=
  [".nan", ".NaN", ".NAN"]

/-- Whether the plain text spells a whole number that 128 bits hold, or as a negative one one
    bit less. -/
def isWhole (text : List Char) : Bool :=
  let bound := if text.head? = some '-' then 2 ^ 127 + 1 else 2 ^ 128
  (unsignedText? (withoutSign text)).any (· < bound)

def isNumber (text : List Char) : Bool :=
  let unsigned := withoutSign text
  isWhole text || (!isPaddedNumeral text && isDecimal unsigned) ||
    unlimitedSpellings.contains (String.ofList unsigned) ||
    undefinedSpellings.contains (String.ofList text)

end Yaml

end Stencil
