/-! # Labels written in ASCII

A label with other characters can be written in ASCII. Its ASCII characters come first, and
behind a hyphen, numbers tell which characters are put where. The numbers have digits of base
36 and no separators: from a threshold on, a digit goes on to the next one, and the
thresholds follow the size of the numbers before.
-/

namespace Stencil.Host.Punycode

def base : Nat := 36

/-- The value of a digit: small letters, and from 26 on decimal digits. -/
def digitValue? (c : Char) : Option Nat :=
  if 'a' ≤ c && c ≤ 'z' then some (c.toNat - 'a'.toNat)
  else if c.isDigit then some (c.toNat - '0'.toNat + 26)
  else none

/-- The threshold at a digit, given its place in steps of the base. -/
def threshold (place bias : Nat) : Nat :=
  if place ≤ bias then 1 else min 26 (place - bias)

/-- Divide a number down until it is small, and count the steps. -/
def scaleDown (value place : Nat) : Nat × Nat :=
  if 455 < value then scaleDown (value / 35) (place + base) else (value, place)
termination_by value
decreasing_by omega

/-- What the thresholds follow behind a number, given how many characters there are. -/
def adapt (value count : Nat) (first : Bool) : Nat :=
  let value := if first then value / 700 else value / 2
  let (value, place) := scaleDown (value + value / count) 0
  place + base * value / (value + 38)

/-- Read a number, of which the digits so far tell `value`. The digits that are left. -/
def readNumber? (bias : Nat) : (digits : List Char) → (place weight value : Nat) →
    Option (Nat × List Char)
  | [], _, _, _ => none
  | c :: rest, place, weight, value => do
    let digit ← digitValue? c
    let value := value + digit * weight
    let threshold := threshold place bias
    if digit < threshold then some (value, rest)
    else readNumber? bias rest (place + base) (weight * (base - threshold)) value

/-- A number has a digit at least. -/
theorem length_lt_of_readNumber? {bias : Nat} {digits rest : List Char}
    {place weight value found : Nat}
    (h : readNumber? bias digits place weight value = some (found, rest)) :
    rest.length < digits.length := by
  induction digits generalizing place weight value with
  | nil => simp [readNumber?] at h
  | cons c digits ih =>
    simp only [readNumber?, Option.bind_eq_bind, Option.bind_eq_some_iff] at h
    obtain ⟨digit, -, h⟩ := h
    split at h
    · simp only [Option.some.injEq, Prod.mk.injEq] at h
      simp [h.2]
    · exact Nat.lt_succ_of_lt (ih h)

/-- Put characters into a label as the digits tell. `index` is where the last one was put,
    `code` its code point, and `bias` what the thresholds follow. -/
def insertAll? (digits : List Char) (code index bias : Nat) (label : List Char) :
    Option (List Char) :=
  if digits.isEmpty then some label
  else
    match h : readNumber? bias digits base 1 0 with
    | none => none
    | some (value, rest) =>
      let count := label.length + 1
      let bias := adapt value count (code = 128 && index = 0)
      let code := code + (index + value) / count
      let index := (index + value) % count
      if code.isValidChar then
        insertAll? rest code (index + 1) bias (label.insertIdx index (Char.ofNat code))
      else none
termination_by digits.length
decreasing_by exact length_lt_of_readNumber? h

/-- The label that is written in ASCII; `none` if the text is no such label. -/
def decode? (text : List Char) : Option (List Char) :=
  let extended := (text.reverse.takeWhile (· ≠ '-')).reverse
  let plain := text.take (text.length - extended.length - 1)
  let extended := if plain.isEmpty then text else extended
  if extended.isEmpty then none else insertAll? extended 128 0 72 plain

end Stencil.Host.Punycode
