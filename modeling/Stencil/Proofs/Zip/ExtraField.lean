import Stencil.Proofs.Zip.Field
import Stencil.Zip.ExtraField

/-! # Written extra fields

The numbers that are too large for a record are found in its extra field.

Main statement: `Listing.extend?_wideField`.
-/

namespace Stencil.Zip

/-- The bytes of a number in the field with wide numbers. -/
def wideBytes (number : Nat) : List UInt8 :=
  if wide32 ≤ number then encode 8 number else []

theorem length_wideBytes (number : Nat) :
    (wideBytes number).length = if wide32 ≤ number then 8 else 0 := by
  rw [wideBytes]
  split
  · exact length_encode 8 number
  · rfl

/-- The field has the bytes of its numbers, and there is none without any. -/
theorem wideField_eq (numbers : List Nat) :
    wideField numbers =
      if numbers.flatMap wideBytes = [] then []
      else encode 2 wideExtra ++ encode 2 (numbers.flatMap wideBytes).length ++
        numbers.flatMap wideBytes := by
  have wide : numbers.flatMap wideBytes =
      (numbers.filter fun number => wide32 ≤ number).flatMap (encode 8) := by
    induction numbers with
    | nil => rfl
    | cons number rest ih =>
        rw [List.flatMap_cons, ih, wideBytes, List.filter_cons]
        by_cases large : wide32 ≤ number
        · rw [if_pos large, if_pos (decide_eq_true large), List.flatMap_cons]
        · rw [if_neg large, if_neg (by simpa using large), List.nil_append]
  have length (large : List Nat) : (large.flatMap (encode 8)).length = 8 * large.length := by
    induction large with
    | nil => rfl
    | cons number rest ih =>
        rw [List.flatMap_cons, List.length_append, length_encode, ih, List.length_cons]
        omega
  rw [wide, wideField]
  cases found : numbers.filter fun number => wide32 ≤ number with
  | nil => rfl
  | cons number rest =>
      have some : (number :: rest).flatMap (encode 8) ≠ [] := by
        rw [← List.length_pos_iff, length]
        exact Nat.mul_pos (by decide) (Nat.succ_pos _)
      rw [if_neg some, length]

namespace ExtraField

variable {α β : Type} {listing : Listing}

theorem run_bind (first : Reader α) (next : α → Reader β) (progress : Progress) :
    (first >>= next).run progress = match first.run progress with
      | (.ok value, progress) => (next value).run progress
      | (.error halt, progress) => (.error halt, progress) := by
  cases found : first.run progress with
  | mk result after =>
    rw [ExceptT.run_bind]
    simp only [bind, StateT.bind]
    simp only [found]
    cases result <;> rfl

theorem run_get (progress : Progress) :
    (get : Reader Progress).run progress = (.ok progress, progress) := rfl

theorem run_takeBytes {count : Nat} {front : List UInt8} (length : front.length = count)
    (back : List UInt8) :
    (takeBytes count).run { listing, rest := front ++ back } =
      (.ok front, { listing, rest := back }) := by
  have enough : ¬ (front ++ back).length < count := by rw [List.length_append]; omega
  rw [takeBytes, run_bind, run_get]
  simp only [if_neg enough]
  rw [List.take_left' length, List.drop_left' length]
  rfl

/-- Where the bytes end, reading stops. -/
theorem run_takeBytes_nil {count : Nat} (some : 0 < count) :
    (takeBytes count).run { listing, rest := [] } =
      (.error .exhausted, { listing, rest := [] }) := by
  rw [takeBytes, run_bind, run_get]
  simp only [List.length_nil, if_pos some]
  rfl

theorem run_takeNumber {width value : Nat} (fits : value < 256 ^ width) (back : List UInt8) :
    (takeNumber width).run { listing, rest := encode width value ++ back } =
      (.ok value, { listing, rest := back }) := by
  rw [takeNumber, run_bind, run_takeBytes (length_encode width value)]
  simp only [decode_encode, Nat.mod_eq_of_lt fits]
  rfl

/-- A number that is wide is taken from the field, and another one stays as it is stated. -/
theorem run_readWideNumber {length number : Nat} {change : Nat → Listing → Listing}
    (fits : number < 2 ^ 64) (all : 24 ≤ length → wide32 ≤ number)
    (kept : ¬ wide32 ≤ number → change number listing = listing) (back : List UInt8) :
    (readWideNumber length (min wide32 number) change).run
        { listing, rest := wideBytes number ++ back } =
      (.ok (wideBytes number).length, { listing := change number listing, rest := back }) := by
  rw [readWideNumber, length_wideBytes, wideBytes]
  by_cases wide : wide32 ≤ number
  · rw [if_pos (.inr (Nat.min_eq_left wide)), if_pos wide, if_pos wide, run_bind,
      run_takeNumber (by omega)]
    rfl
  · rw [if_neg (by omega), if_neg wide, if_neg wide, kept wide]
    rfl

theorem run_require {condition : Bool} (holds : condition = true) (progress : Progress) :
    (require condition).run progress = (.ok (), progress) := by
  rw [require, if_pos holds]
  rfl

/-- The field with wide numbers tells the numbers that were written. -/
theorem run_readWide {size packedSize offset length : Nat}
    (fits : size < 2 ^ 64 ∧ packedSize < 2 ^ 64 ∧ offset < 2 ^ 64)
    (listed : listing.size = min wide32 size ∧ listing.packedSize = min wide32 packedSize ∧
      listing.offset = min wide32 offset)
    (whole : length = ([size, packedSize, offset].flatMap wideBytes).length) :
    (readWide length).run { listing, rest := [size, packedSize, offset].flatMap wideBytes } =
      (.ok (), { listing := { listing with size, packedSize, offset }, rest := [] }) := by
  obtain ⟨fitsSize, fitsPacked, fitsOffset⟩ := fits
  obtain ⟨listedSize, listedPacked, listedOffset⟩ := listed
  have split : [size, packedSize, offset].flatMap wideBytes =
      wideBytes size ++ (wideBytes packedSize ++ (wideBytes offset ++ [])) := rfl
  have sum : (wideBytes size).length + (wideBytes packedSize).length +
      (wideBytes offset).length = length := by
    rw [whole, split]
    simp only [List.length_append, List.length_nil]
    omega
  -- all numbers are taken from the field if it is long enough for all of them
  have all : 24 ≤ length → wide32 ≤ size ∧ wide32 ≤ packedSize ∧ wide32 ≤ offset := by
    rw [← sum, length_wideBytes, length_wideBytes, length_wideBytes]
    split_ifs <;> omega
  have keptSize : ¬ wide32 ≤ size → { listing with size } = listing := by
    intro narrow
    have same : listing.size = size := by omega
    rw [← same]
  have keptPacked : ¬ wide32 ≤ packedSize →
      { listing with size, packedSize } = { listing with size } := by
    intro narrow
    have same : listing.packedSize = packedSize := by omega
    rw [← same]
  have keptOffset : ¬ wide32 ≤ offset →
      { listing with size, packedSize, offset } = { listing with size, packedSize } := by
    intro narrow
    have same : listing.offset = offset := by omega
    rw [← same]
  rw [readWide, run_bind, run_get, split]
  simp only [listedSize, listedPacked, listedOffset]
  rw [run_bind, run_readWideNumber fitsSize (fun long => (all long).1) keptSize]
  simp only
  rw [run_bind, run_readWideNumber fitsPacked (fun long => (all long).2.1) keptPacked]
  simp only
  rw [run_bind, run_readWideNumber fitsOffset (fun long => (all long).2.2) keptOffset]
  simp only [sum]
  rw [run_bind, run_require (decide_eq_true (Nat.le_refl length))]
  have none (listing : Listing) :
      (takeBytes 0).run { listing, rest := [] } = (.ok [], { listing, rest := [] }) := rfl
  simp only [Nat.sub_self]
  rw [run_bind, none]
  rfl

theorem run_readAll_nil (fuel : Nat) :
    (readAll fuel).run { listing, rest := [] } = (.error .exhausted, { listing, rest := [] }) := by
  cases fuel with
  | zero => rfl
  | succ fuel =>
      rw [readAll, run_bind, takeNumber, run_bind, run_takeBytes_nil (by decide)]

/-- The extra fields of a written record tell its numbers, and reading ends behind them. -/
theorem run_readAll {size packedSize offset : Nat}
    (fits : size < 2 ^ 64 ∧ packedSize < 2 ^ 64 ∧ offset < 2 ^ 64)
    (listed : listing.size = min wide32 size ∧ listing.packedSize = min wide32 packedSize ∧
      listing.offset = min wide32 offset) :
    (readAll ((wideField [size, packedSize, offset]).length + 1)).run
        { listing, rest := wideField [size, packedSize, offset] } =
      (.error .exhausted, { listing := { listing with size, packedSize, offset }, rest := [] }) := by
  have split : [size, packedSize, offset].flatMap wideBytes =
      wideBytes size ++ (wideBytes packedSize ++ (wideBytes offset ++ [])) := rfl
  have lengths := congrArg List.length split
  simp only [List.length_append, List.length_nil, length_wideBytes] at lengths
  rw [wideField_eq]
  split_ifs with empty
  · rw [empty, List.length_nil] at lengths
    have narrow : ¬ wide32 ≤ size ∧ ¬ wide32 ≤ packedSize ∧ ¬ wide32 ≤ offset := by
      split_ifs at lengths <;> omega
    have same : { listing with size, packedSize, offset } = listing := by
      obtain ⟨listedSize, listedPacked, listedOffset⟩ := listed
      rw [Nat.min_eq_right (by omega)] at listedSize listedPacked listedOffset
      rw [← listedSize, ← listedPacked, ← listedOffset]
    rw [same]
    exact run_readAll_nil _
  · have short : ([size, packedSize, offset].flatMap wideBytes).length < 256 ^ 2 := by
      rw [lengths]
      split_ifs <;> decide
    have content (length : Nat) : readContent wideExtra length = readWide length := rfl
    rw [readAll, run_bind, List.append_assoc, run_takeNumber (by decide)]
    simp only
    rw [run_bind, run_takeNumber short]
    simp only
    rw [run_bind, content, run_readWide fits listed rfl]
    exact run_readAll_nil _

end ExtraField

/-- The numbers of a written record are read as they are, whether they are wide or not. -/
theorem Listing.extend?_wideField {listing : Listing} {size packedSize offset : Nat}
    (fits : size < 2 ^ 64 ∧ packedSize < 2 ^ 64 ∧ offset < 2 ^ 64)
    (listed : listing.size = min wide32 size ∧ listing.packedSize = min wide32 packedSize ∧
      listing.offset = min wide32 offset)
    (known : listing.method ≠ sealedMethod) :
    listing.extend? (wideField [size, packedSize, offset]) =
      some { listing with size, packedSize, offset } := by
  rw [Listing.extend?, ExtraField.run_readAll fits listed]
  simp only [decide_eq_false known, Bool.false_and, Bool.false_eq_true, if_false]

end Stencil.Zip
