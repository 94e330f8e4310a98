import Stencil.Instances
import Stencil.Text.Classes

/-! # Searching and cutting text

Text is a list of characters, so that every search is a recursion on its remainder.
A search returns the pieces around what it found, never an index.
-/

namespace Stencil.Text

def trimStart (text : List Char) : List Char :=
  text.dropWhile isBlank

def trimEnd (text : List Char) : List Char :=
  (text.reverse.dropWhile isBlank).reverse

def trim (text : List Char) : List Char :=
  trimEnd (trimStart text)

/-- What follows `lead`, if the text starts with it. -/
def dropLead? (lead text : List Char) : Option (List Char) :=
  lead.isPrefixOf? text

/-- What precedes `tail`, if the text ends with it. -/
def dropTail? (tail text : List Char) : Option (List Char) :=
  tail.isSuffixOf? text

/-- What precedes `tail` if the text ends with it, else the text itself. -/
def dropTail (tail text : List Char) : List Char :=
  (dropTail? tail text).getD text

/-- The text before and after the first `mark`. -/
def splitFirst? (mark : Char) : (text : List Char) → Option (List Char × List Char)
  | [] => none
  | c :: rest =>
    if c = mark then some ([], rest)
    else (splitFirst? mark rest).map fun (before, after) => (c :: before, after)

/-- The text before and after the last `mark`. -/
def splitLast? (mark : Char) (text : List Char) : Option (List Char × List Char) :=
  (splitFirst? mark text.reverse).map fun (after, before) => (before.reverse, after.reverse)

/-- The pieces between the occurrences of `mark`; one piece more than there are marks. -/
def splitAll (mark : Char) (text : List Char) : List (List Char) :=
  text.foldr
    (fun c pieces =>
      if c = mark then [] :: pieces
      else match pieces with
        | [] => [[c]]
        | piece :: rest => (c :: piece) :: rest)
    [[]]

/-- The text before the first occurrence of `needle`, and the text after it. -/
def cutFirst? (needle : List Char) : (text : List Char) → Option (List Char × List Char)
  | [] => (dropLead? needle []).map ([], ·)
  | c :: rest =>
    match dropLead? needle (c :: rest) with
    | some after => some ([], after)
    | none => (cutFirst? needle rest).map fun (before, after) => (c :: before, after)

/-- The text before the last occurrence of `needle`, and the text after it. -/
def cutLast? (needle text : List Char) : Option (List Char × List Char) :=
  (cutFirst? needle.reverse text.reverse).map fun (after, before) =>
    (before.reverse, after.reverse)

def occurs (needle text : List Char) : Bool :=
  (cutFirst? needle text).isSome

/-- What was dropped and what is left add up to the text. -/
theorem length_of_dropLead? {lead text rest : List Char} (h : dropLead? lead text = some rest) :
    text.length = lead.length + rest.length := by
  induction lead generalizing text with
  | nil =>
    cases (h : some text = some rest)
    simp
  | cons c lead ih =>
    cases text with
    | nil => cases (h : none = some rest)
    | cons d text =>
      change (if c == d then dropLead? lead text else none) = some rest at h
      split at h
      · have := ih h
        simp only [List.length_cons]
        omega
      · cases h

/-- Each occurrence of the character `mark` becomes `replacement`. -/
def replaceChar (mark : Char) (replacement text : List Char) : List Char :=
  text.flatMap fun c => if c = mark then replacement else [c]

/-- The number of bytes of the text in UTF-8. -/
def byteSize (text : List Char) : Nat :=
  text.foldl (fun size c => size + c.utf8Size) 0

/-- The digits of a decimal numeral as a number; `none` unless all are ASCII digits. -/
def decimal? : List Char → Option Nat
  | [] => none
  | digits =>
    if digits.all Char.isDigit then
      some (digits.foldl (fun value d => value * 10 + (d.toNat - '0'.toNat)) 0)
    else none

def join (separator : List Char) : List (List Char) → List Char
  | [] => []
  | [piece] => piece
  | piece :: rest => piece ++ separator ++ join separator rest

/-! ## Numerals of a base

Numerals up to base sixteen, with letters of either case for the digits from ten on.
-/

def hexValue? (c : Char) : Option Nat :=
  if c.isDigit then some (c.toNat - '0'.toNat)
  else if 'a' ≤ c && c ≤ 'f' then some (c.toNat - 'a'.toNat + 10)
  else if 'A' ≤ c && c ≤ 'F' then some (c.toNat - 'A'.toNat + 10)
  else none

/-- The number that digits of a base spell; an empty numeral is zero. -/
def numeral? (base : Nat) (digits : List Char) : Option Nat :=
  digits.foldlM
    (fun value c => do
      let digit ← hexValue? c
      if digit < base then some (value * base + digit) else none) 0

end Stencil.Text
