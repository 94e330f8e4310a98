import Stencil.Proofs.Zip.Field
import Stencil.Zip.Draft
import Stencil.Zip.EndRecord

/-! # Written end records

The end record of a container leads to the directory before it, by itself or through the wide end
record.

Main statement: `Ends.exists_directoryPlace?_eq`.
-/

namespace Stencil.Zip

variable {bytes : ByteArray}

/-- A search for a record ends where it begins if it stands there and is accepted. -/
theorem findRecord?_of_stands {α : Type} {signature place count : Nat} {accept : Nat → Option α}
    {found : α} (h : Stands bytes place (encode 4 signature).toByteArray)
    (fits : signature < 256 ^ 4) (accepted : accept place = some found) (searched : 0 < count) :
    findRecord? bytes signature accept place count = some found := by
  obtain ⟨count, rfl⟩ := Nat.exists_eq_add_of_lt searched
  have first : bytes[place]? = some (UInt8.ofNat signature) := h.getElem?_eq
  rw [Nat.zero_add, findRecord?, if_pos ⟨first, h.signatureAt_eq fits⟩, accepted]

/-- What stands before the end record: the wide one and its locator, if they are needed. -/
def wideRecord (count size offset : Nat) : List UInt8 :=
  if wide16 ≤ count ∨ wide32 ≤ size ∨ wide32 ≤ offset then wideEndRecord count size offset else []

theorem length_wideEndRecord (count size offset : Nat) :
    (wideEndRecord count size offset).length = wideEndSize + locatorSize := by
  simp only [wideEndRecord, List.length_append, length_encode, wideEndSize, locatorSize]

/-- The end record behind what stands before it. -/
theorem endRecord_eq (count size offset : Nat) :
    endRecord count size offset = (wideRecord count size offset).toByteArray ++
      (encode 4 endSignature ++ encode 2 0 ++ encode 2 0 ++ encode 2 (min wide16 count) ++
        encode 2 (min wide16 count) ++ encode 4 (min wide32 size) ++
        encode 4 (min wide32 offset) ++ encode 2 0).toByteArray := by
  simp only [endRecord, wideRecord, ← List.toByteArray_append, List.append_assoc]

theorem size_endRecord (count size offset : Nat) :
    (endRecord count size offset).size = (wideRecord count size offset).length + endSize := by
  simp only [endRecord, wideRecord, List.size_toByteArray, List.length_append, length_encode,
    endSize]

/-- The end record of a directory of `size` bytes behind `offset` bytes, at the end. -/
structure Ends (bytes : ByteArray) (count size offset : Nat) : Prop where
  record : Stands bytes (offset + size) (endRecord count size offset)
  last : bytes.size = offset + size + (endRecord count size offset).size
  /-- The directory has space for all its records. -/
  room : count * recordSize ≤ size

namespace Ends

variable {count size offset : Nat}

theorem place_eq (h : Ends bytes count size offset) :
    bytes.size - endSize = offset + size + (wideRecord count size offset).length := by
  have last := h.last
  rw [size_endRecord] at last
  omega

/-- What the end record tells. -/
theorem read?_eq (h : Ends bytes count size offset) :
    signatureAt bytes (bytes.size - endSize) endSignature = true ∧
      EndRecord.read? bytes (bytes.size - endSize) = some
        { place := bytes.size - endSize, disk := 0, directoryDisk := 0, count := min wide16 count
          total := min wide16 count, offset := min wide32 offset } := by
  have record := h.record
  have last := h.last
  rw [size_endRecord] at last
  have narrow : min wide16 count < 256 ^ 2 :=
    Nat.lt_of_le_of_lt (Nat.min_le_left _ _) (by decide)
  have narrowed : min wide32 offset < 256 ^ 4 :=
    Nat.lt_of_le_of_lt (Nat.min_le_left _ _) (by decide)
  rw [endRecord_eq, stands_append, List.size_toByteArray, ← h.place_eq] at record
  generalize bytes.size - endSize = place at record
  simp only [List.toByteArray_append, stands_append, and_assoc, ByteArray.size_append,
    List.size_toByteArray, length_encode, Nat.reduceAdd] at record
  obtain ⟨-, signature, disk, directoryDisk, count', total, -, offset', comment⟩ := record
  refine ⟨signature.signatureAt_eq (by decide), ?_⟩
  rw [EndRecord.read?, disk.field?_eq (by decide), directoryDisk.field?_eq (by decide),
    count'.field?_eq narrow, total.field?_eq narrow, offset'.field?_eq narrowed,
    comment.field?_eq (by decide)]
  have inside := (stands_iff.mp comment).1
  rw [List.size_toByteArray, length_encode] at inside
  simp only [Option.bind_eq_bind, Option.bind_some]
  rw [if_neg (by simp only [endSize]; omega)]
  rfl

/-- Whether the numbers of the end record point to a wide one. -/
theorem mayBeWide_eq (place count offset : Nat) :
    EndRecord.mayBeWide
        { place, disk := 0, directoryDisk := 0, count := min wide16 count
          total := min wide16 count, offset := min wide32 offset } =
      decide (wide16 ≤ count ∨ wide32 ≤ offset) := by
  have counts : min wide16 count = wide16 ↔ wide16 ≤ count := by omega
  have offsets : min wide32 offset = wide32 ↔ wide32 ≤ offset := by omega
  simp only [EndRecord.mayBeWide, counts, offsets, Bool.decide_or]

/-- The wide end record leads to the directory. -/
theorem widePlace?_eq (h : Ends bytes count size offset) (narrow : offset + size < 2 ^ 64)
    (wide : wide16 ≤ count ∨ wide32 ≤ size ∨ wide32 ≤ offset) :
    signatureAt bytes (offset + size + wideEndSize) locatorSignature = true ∧
      ((Locator.read? bytes (offset + size + wideEndSize)).bind (Locator.widePlace? bytes)) =
        some { base := 0, start := offset, count } := by
  have record := h.record
  have room := h.room
  have counted : count < 256 ^ 8 := by simp only [recordSize] at room; omega
  rw [endRecord_eq, stands_append, wideRecord, if_pos wide] at record
  replace record := record.1
  rw [wideEndRecord] at record
  obtain ⟨place, same⟩ : ∃ place, place = offset + size := ⟨_, rfl⟩
  simp only [← same, List.toByteArray_append, stands_append, and_assoc, ByteArray.size_append,
    List.size_toByteArray, length_encode, Nat.reduceAdd] at record
  obtain ⟨signature, length, version, needed, disk, directoryDisk, count', total, -, offset',
    locator, locatorDisk, place', disks⟩ := record
  rw [← same]
  refine ⟨locator.signatureAt_eq (by decide), ?_⟩
  have accepted : Locator.wideEnd? bytes
      { place := place + wideEndSize, directoryDisk := 0, offset := place, disks := 1 } place =
        some (some { base := 0, start := offset, count }) := by
    rw [Locator.wideEnd?, length.field?_eq (by decide), version.field?_eq (by decide),
      needed.field?_eq (by decide), disk.field?_eq (by decide),
      directoryDisk.field?_eq (by decide), count'.field?_eq counted, total.field?_eq counted,
      offset'.field?_eq (by omega)]
    simp only [Option.bind_eq_bind, Option.bind_some]
    rw [if_neg (by simp [wideEndSize]; omega), if_neg (by simp)]
    simp
  have read : Locator.read? bytes (place + wideEndSize) = some
      { place := place + wideEndSize, directoryDisk := 0, offset := place, disks := 1 } := by
    simp only [Locator.read?, wideEndSize, Nat.add_assoc, Nat.reduceAdd]
    rw [locatorDisk.field?_eq (by decide), place'.field?_eq (by omega), disks.field?_eq (by decide)]
    rfl
  have searched : 0 < place + wideEndSize - place := by rw [Nat.add_sub_cancel_left]; decide
  rw [read, Option.bind_some, Locator.widePlace?, if_neg (Nat.lt_irrefl 1),
    findRecord?_of_stands signature (by decide) accepted searched, Option.join_some]

/-- An end record that does not point to a wide one leads to the directory by itself. -/
theorem exists_plainPlace?_eq (h : Ends bytes count size offset) (few : count < wide16)
    (near : offset < wide32)
    (first : count ≠ 0 → Stands bytes offset (encode 4 recordSignature).toByteArray) :
    ∃ directory, EndRecord.plainPlace? bytes
        { place := bytes.size - endSize, disk := 0, directoryDisk := 0, count := min wide16 count
          total := min wide16 count, offset := min wide32 offset } = some directory ∧
      directory.count = count ∧ (count ≠ 0 → directory.base = 0 ∧ directory.start = offset) := by
  have place := h.place_eq
  have room := h.room
  rw [EndRecord.plainPlace?, if_neg (not_not.mpr rfl), Nat.min_eq_right (Nat.le_of_lt few),
    Nat.min_eq_right (Nat.le_of_lt near)]
  by_cases empty : count = 0
  · rw [if_pos empty]
    exact ⟨_, rfl, rfl, fun some => absurd empty some⟩
  · rw [if_neg empty]
    have searched : 0 < bytes.size - endSize - offset - 3 := by
      simp only [recordSize] at room
      omega
    refine ⟨{ base := 0, start := offset, count }, ?_, rfl, fun _ => ⟨rfl, rfl⟩⟩
    exact findRecord?_of_stands (first empty) (by decide) (by rw [Nat.sub_self]) searched

/-- The end record of a container leads to its directory. -/
theorem exists_directoryPlace?_eq (h : Ends bytes count size offset)
    (narrow : offset + size < 2 ^ 64)
    (first : count ≠ 0 → Stands bytes offset (encode 4 recordSignature).toByteArray) :
    ∃ directory, directoryPlace? bytes (bytes.size - endSize) = some directory ∧
      directory.count = count ∧ (count ≠ 0 → directory.base = 0 ∧ directory.start = offset) := by
  rw [directoryPlace?, h.read?_eq.2]
  simp only [Option.bind_eq_bind, Option.bind_some, EndRecord.locator?, mayBeWide_eq]
  by_cases wide : wide16 ≤ count ∨ wide32 ≤ offset
  · have located := h.widePlace?_eq narrow (by tauto)
    have place : bytes.size - endSize = offset + size + wideEndSize + locatorSize := by
      rw [h.place_eq, wideRecord, if_pos (by tauto), length_wideEndRecord]
      omega
    rw [place, Nat.add_sub_cancel, decide_eq_true wide, located.1,
      decide_eq_true (Nat.le_add_left _ _), Bool.true_and, Bool.and_true, if_pos rfl]
    exact ⟨_, located.2, rfl, fun _ => ⟨rfl, rfl⟩⟩
  · rw [decide_eq_false wide]
    simp only [Bool.false_and, Bool.false_eq_true, if_false]
    exact h.exists_plainPlace?_eq (by omega) (by omega) first

end Ends

end Stencil.Zip
