import Stencil.Number.Binary64
import Stencil.Shell.Arithmetic

/-! # Reading floating point numbers

Utilities read a number from the start of a text: digits with a point and an exponent, or a
word for a number that has no digits.
-/

namespace Stencil

open Shell (ByteText)

/-- A number as utilities know it. -/
inductive Real64 where
  | finite (value : Binary64)
  | infinite (negative : Bool)
  | notANumber (negative : Bool)
  deriving Repr, DecidableEq

namespace Real64

def ofRatio (negative : Bool) (numerator denominator : Nat) : Real64 :=
  match Binary64.ofRatio? negative numerator denominator with
  | some value => .finite value
  | none => .infinite negative

def takeExponent (text : ByteText) : Int × ByteText :=
  match text with
  | letter :: rest =>
    if (letter = 'e' || letter = 'E') && !rest.head?.any ByteText.isSpace then
      (Shell.takeSigned? (Shell.takeDigits? 10) rest).getD (0, text)
    else (0, text)
  | [] => (0, text)

/-- The exponents beyond which numbers are zero or infinite whatever their digits. -/
def exponentBound : Int := 5000

/-- The magnitude at the start of a text, and what follows it. -/
def takeMagnitude? (negative : Bool) (text : ByteText) : Option (Real64 × ByteText) :=
  let whole := text.takeWhile Char.isDigit
  let rest := text.drop whole.length
  let (places, rest) := match rest with
    | '.' :: after =>
      let places := after.takeWhile Char.isDigit
      if whole.isEmpty && places.isEmpty then ([], rest) else (places, after.drop places.length)
    | _ => ([], rest)
  if whole.isEmpty && places.isEmpty then none
  else
    let digits := (whole ++ places).foldl (fun value d => value * 10 + (d.toNat - '0'.toNat)) 0
    let (exponent, rest) := takeExponent rest
    let exponent := exponent - places.length
    let value :=
      if digits = 0 then ofRatio negative 0 1
      else if exponentBound < exponent then .infinite negative
      else if exponent < -(exponentBound + digits.log2) then ofRatio negative 0 1
      else if 0 ≤ exponent then ofRatio negative (digits * 10 ^ exponent.toNat) 1
      else ofRatio negative digits (10 ^ (-exponent).toNat)
    some (value, rest)

/-- The number at the start of a text, and what follows it. -/
def take? (text : ByteText) : Option (Real64 × ByteText) :=
  let text := text.dropWhile ByteText.isSpace
  let (negative, rest) := match text with
    | '-' :: rest => (true, rest)
    | '+' :: rest => (false, rest)
    | rest => (false, rest)
  let word := (rest.take 8).map Char.toLower
  match takeMagnitude? negative rest with
  | some found => some found
  | none =>
    if "infinity".toList = word then some (.infinite negative, rest.drop 8)
    else if "inf".toList = word.take 3 then some (.infinite negative, rest.drop 3)
    else if "nan".toList = word.take 3 then some (.notANumber negative, rest.drop 3)
    else none

end Real64

end Stencil
