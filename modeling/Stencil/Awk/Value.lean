import Stencil.Awk.Basic
import Stencil.Awk.Token

/-! # Values of programs for records

A value is a number or a text. A text that was read counts as a number where it looks like
one; a value that was never assigned is the number zero and the empty text.
-/

namespace Stencil.Awk

open Shell (ByteText)

inductive Value where
  | nothing
  | number (value : Float)
  | text (text : ByteText)
  | input (text : ByteText)

/-- The exact number of a floating point number, unless it is none that has one. -/
def binaryOf? (value : Float) : Option Binary64 :=
  let bits := value.toBits.toNat
  let negative := 2 ^ 63 ≤ bits
  let exponent := bits / 2 ^ 52 % 2 ^ 11
  let fraction := bits % 2 ^ 52
  if exponent = 2047 then none
  else if exponent = 0 then some { negative, mantissa := fraction, exponent := Binary64.leastExponent }
  else some { negative, mantissa := fraction + 2 ^ 52, exponent := Int.ofNat exponent - 1075 }

def isNegative (value : Float) : Bool :=
  2 ^ 63 ≤ value.toBits.toNat

/-- The whole number that is nearest in the direction of zero; the greatest or the least one
    for a number that is beyond them. -/
def truncated (value : Float) : Int :=
  match binaryOf? value with
  | some exact =>
    let (numerator, denominator) := exact.ratio
    let magnitude : Int := (numerator / denominator : Nat)
    Shell.clamp (if exact.negative then -magnitude else magnitude)
  | none =>
    if value.isNaN || isNegative value then Shell.leastNumber else Shell.greatestNumber

/-- A number laid out by a directive in the notation of a letter. -/
def layFloat (directive : Directive) (style : Char) (value : Float) : ByteText :=
  match binaryOf? value with
  | some exact => directive.layReal style exact
  | none =>
    directive.layWord style (isNegative value) (if value.isNaN then "nan".toList else "inf".toList)

/-- A format for one number: its directive, and the letter of its notation. -/
structure NumberFormat where
  directive : Directive
  style : Char

/-- The format that a text spells, if it is one for a floating point number. -/
def NumberFormat.ofText (text : ByteText) : NumberFormat :=
  match text with
  | '%' :: rest =>
    let (directive, rest) := ({} : Directive).takeFlags rest
    let (width, rest) := Directive.takeCount rest
    let (precision, rest) := match rest with
      | '.' :: rest =>
        let (precision, rest) := Directive.takeCount rest
        (some precision, rest)
      | rest => (none, rest)
    { directive := { directive with width, precision }, style := rest.headD 'g' }
  | _ => { directive := {}, style := 'g' }

def isWhole (value : Float) : Bool :=
  value.floor == value && value.abs < 9223372036854775808.0

def numberText (format : ByteText) (value : Float) : ByteText :=
  if isWhole value then ByteText.ofInt (truncated value)
  else
    let format := NumberFormat.ofText format
    if "eEfFgG".toList.contains format.style then layFloat format.directive format.style value
    else format.directive.layInteger (truncated value)

/-- Whether a text looks like a number, but for blanks around it. -/
def looksNumeric (text : ByteText) : Bool :=
  match takeFloat? text with
  | some (_, rest) => rest.all ByteText.isSpace
  | none => false

namespace Value

def toFloat : Value → Float
  | .nothing => 0.0
  | .number value => value
  | .text read | .input read => ((takeFloat? read).map Prod.fst).getD 0.0

def toText (format : ByteText) : Value → ByteText
  | .nothing => []
  | .number value => numberText format value
  | .text read | .input read => read

def isNumeric : Value → Bool
  | .nothing | .number _ => true
  | .text _ => false
  | .input read => looksNumeric read

def isTrue : Value → Bool
  | .nothing => false
  | .number value => value != 0.0
  | .text read => !read.isEmpty
  | .input read => if looksNumeric read then Value.toFloat (.input read) != 0.0 else !read.isEmpty

/-- One for yes and zero for no. -/
def truth (holds : Bool) : Value :=
  .number (if holds then 1.0 else 0.0)

end Value

end Stencil.Awk
