import Stencil.Number.Binary64
import Stencil.Shell.ByteText

/-! # Directives of formats

A directive says how one value is laid out: with which flags, how wide at least, how precise,
and in which notation. Values are texts, whole numbers, and floating point numbers, whose
digits are exact.
-/

namespace Stencil

open Shell (ByteText)

/-- How a value is laid out. -/
structure Directive where
  /-- To the left of its field. -/
  left : Bool := false
  /-- With a sign even if it is positive. -/
  plus : Bool := false
  /-- With a blank in the place of a plus sign. -/
  blank : Bool := false
  /-- With the mark of its notation. -/
  alternate : Bool := false
  /-- Filled up with zeros. -/
  zeros : Bool := false
  width : Nat := 0
  precision : Option Nat := none
  deriving Repr

namespace Directive

/-- A directive with one more flag; none if the character is no flag. -/
def withFlag? (directive : Directive) (flag : Char) : Option Directive :=
  match flag with
  | '-' => some { directive with left := true }
  | '+' => some { directive with plus := true }
  | ' ' => some { directive with blank := true }
  | '#' => some { directive with alternate := true }
  | '0' => some { directive with zeros := true }
  | _ => none

def pad (directive : Directive) (text : ByteText) : ByteText :=
  let gap := List.replicate (directive.width - text.length) ' '
  if directive.left then text ++ gap else gap ++ text

/-- A text, cut to the precision. -/
def layText (directive : Directive) (text : ByteText) : ByteText :=
  directive.pad (match directive.precision with
    | some most => text.take most
    | none => text)

/-- A number that is made of a sign or a mark and of digits. -/
def layNumber (directive : Directive) (fillsZeros : Bool) (sign digits : ByteText) : ByteText :=
  if fillsZeros && directive.zeros && !directive.left then
    let missing := directive.width - sign.length - digits.length
    sign ++ List.replicate missing '0' ++ digits
  else directive.pad (sign ++ digits)

/-- The sign in front of a number. -/
def signOf (directive : Directive) (negative : Bool) : ByteText :=
  if negative then ['-'] else if directive.plus then ['+'] else if directive.blank then [' '] else []

/-- Digits with zeros in front of them up to the precision. -/
def precise (directive : Directive) (digits : ByteText) : ByteText :=
  match directive.precision with
  | some 0 => if digits = ['0'] then [] else digits
  | some least => List.replicate (least - digits.length) '0' ++ digits
  | none => digits

def layInteger (directive : Directive) (value : Int) : ByteText :=
  directive.layNumber directive.precision.isNone (directive.signOf (value < 0))
    (directive.precise (ByteText.ofNat value.natAbs))

/-- A number without a sign in the notation of a letter. -/
def layUnsigned (directive : Directive) (style : Char) (value : Nat) : ByteText :=
  let digits := match style with
    | 'o' => Nat.toDigits 8 value
    | 'x' => Nat.toDigits 16 value
    | 'X' => (Nat.toDigits 16 value).map Char.toUpper
    | _ => ByteText.ofNat value
  let digits := directive.precise digits
  let (mark, digits) := match directive.alternate, style with
    | true, 'o' => ([], if digits.head? = some '0' then digits else '0' :: digits)
    | true, 'x' => (if value = 0 then [] else ['0', 'x'], digits)
    | true, 'X' => (if value = 0 then [] else ['0', 'X'], digits)
    | _, _ => ([], digits)
  directive.layNumber directive.precision.isNone mark digits

/-- A fraction times a power of ten as a nearest whole number. -/
def scaled (numerator denominator : Nat) (exponent : Int) : Nat :=
  if 0 ≤ exponent then
    Binary64.roundedQuotient (numerator * 10 ^ exponent.toNat) denominator
  else Binary64.roundedQuotient numerator (denominator * 10 ^ (-exponent).toNat)

def pointed (keepsPoint : Bool) (digits : ByteText) (places : Nat) : ByteText :=
  let digits := List.replicate (places + 1 - digits.length) '0' ++ digits
  let whole := digits.take (digits.length - places)
  if places = 0 then if keepsPoint then whole ++ ['.'] else whole
  else whole ++ '.' :: digits.drop (digits.length - places)

/-- A magnitude with a fixed number of places. -/
def fixedDigits (keepsPoint : Bool) (value : Binary64) (places : Nat) : ByteText :=
  let (numerator, denominator) := value.ratio
  pointed keepsPoint (ByteText.ofNat (scaled numerator denominator places)) places

/-- The place of the leading digit of a positive magnitude. -/
def leadingPlace (numerator denominator : Nat) : Int :=
  let guess : Int := ((Nat.toDigits 10 numerator).length : Int) - (Nat.toDigits 10 denominator).length
  let reaches (exponent : Int) : Bool :=
    if 0 ≤ exponent then denominator * 10 ^ exponent.toNat ≤ numerator
    else denominator ≤ numerator * 10 ^ (-exponent).toNat
  if reaches guess then guess else guess - 1

/-- The digits of a magnitude, one more than the places, and the place of the first one. -/
def leadingDigits (value : Binary64) (places : Nat) : ByteText × Int :=
  let (numerator, denominator) := value.ratio
  if numerator = 0 then (List.replicate (places + 1) '0', 0)
  else
    let lead := leadingPlace numerator denominator
    let digits := ByteText.ofNat (scaled numerator denominator ((places : Int) - lead))
    if digits.length = places + 1 then (digits, lead) else (digits.dropLast, lead + 1)

def exponentText (letter : Char) (exponent : Int) : ByteText :=
  let digits := ByteText.ofNat exponent.natAbs
  letter :: (if exponent < 0 then '-' else '+') ::
    (if digits.length < 2 then '0' :: digits else digits)

def trimZeros (text : ByteText) : ByteText :=
  if text.contains '.' then
    let trimmed := text.reverse.dropWhile (· == '0')
    (match trimmed with
      | '.' :: rest => rest
      | rest => rest).reverse
  else text

/-- The digits of a magnitude in the notation of a letter. -/
def magnitude (directive : Directive) (style : Char) (value : Binary64) : ByteText :=
  let places := directive.precision.getD 6
  let letter := if style.isUpper then 'E' else 'e'
  match style.toLower with
  | 'f' => fixedDigits directive.alternate value places
  | 'e' =>
    let (digits, lead) := leadingDigits value places
    pointed directive.alternate digits places ++ exponentText letter lead
  | _ =>
    let digitCount := if places = 0 then 1 else places
    let (digits, lead) := leadingDigits value (digitCount - 1)
    let trim (text : ByteText) := if directive.alternate then text else trimZeros text
    if -4 ≤ lead && lead < digitCount then
      trim (fixedDigits directive.alternate value ((digitCount : Int) - 1 - lead).toNat)
    else
      trim (pointed directive.alternate digits (digitCount - 1)) ++ exponentText letter lead

/-- A floating point number in the notation of a letter. -/
def layReal (directive : Directive) (style : Char) (value : Binary64) : ByteText :=
  directive.layNumber true (directive.signOf value.negative) (directive.magnitude style value)

/-- A word in the place of a number that has no digits. -/
def layWord (directive : Directive) (style : Char) (negative : Bool) (word : ByteText) :
    ByteText :=
  let word := if style.isUpper then word.map Char.toUpper else word
  directive.pad (directive.signOf negative ++ word)

def takeFlags (directive : Directive) : ByteText → Directive × ByteText
  | [] => (directive, [])
  | c :: rest =>
    match directive.withFlag? c with
    | some directive => takeFlags directive rest
    | none => (directive, c :: rest)

def takeCount (text : ByteText) : Nat × ByteText :=
  let digits := text.takeWhile Char.isDigit
  (digits.foldl (fun value d => value * 10 + (d.toNat - '0'.toNat)) 0, text.drop digits.length)

end Directive

end Stencil
