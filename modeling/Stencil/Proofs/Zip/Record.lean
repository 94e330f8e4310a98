import Stencil.Proofs.Zip.ExtraField
import Stencil.Zip.Directory
import Stencil.Zip.Draft

/-! # Written records

The record of an entry in the directory leads to the entry as it was written.

Main statement: `readRecord?_directoryRecord`.
-/

namespace Stencil.Zip

/-- An entry that a container can hold: what is told of it fits its fields, nothing else has to be
    told of it, and all its packed bytes are there. -/
structure Entry.Storable (entry : Entry) : Prop where
  name : entry.name.utf8ByteSize < 2 ^ 16
  known : Method.ofCode entry.method.code = entry.method
  method : entry.method.code < 2 ^ 16
  unsealed : entry.method.code ≠ sealedMethod
  plain : entry.encrypted = false
  found : entry.lost = false
  date : entry.modified.date < 2 ^ 16
  time : entry.modified.time < 2 ^ 16
  checksum : entry.checksum < 2 ^ 32
  size : entry.size < 2 ^ 64
  packed : entry.packed.size = entry.packedSize

theorem Entry.Storable.eta {entry : Entry} (h : entry.Storable) :
    { entry with encrypted := false, lost := false } = entry := by
  have plain := h.plain
  have found := h.found
  obtain ⟨_, _, _, _, _, _, _, _, _⟩ := entry
  cases plain
  cases found
  rfl

theorem size_toUTF8 (text : String) : text.toUTF8.size = text.utf8ByteSize := rfl

theorem nameFlags_lt (name : String) : nameFlags name < 2 ^ 16 := by
  rw [nameFlags]
  split <;> decide

theorem hasFlag_nameFlags (name : String) : hasFlag (nameFlags name) encryptedFlag = false := by
  rw [nameFlags]
  split <;> rfl

theorem size_localRecord (entry : Entry) :
    (localRecord entry).size = localSize + entry.name.utf8ByteSize := by
  simp only [localRecord, sharedFields, ByteArray.size_append, List.size_toByteArray,
    List.length_append, length_encode, size_toUTF8, localSize]

theorem size_directoryRecord (entry : Entry) (offset : Nat) :
    (directoryRecord entry offset).size = recordSize + entry.name.utf8ByteSize +
      (wideField [entry.size, entry.packedSize, offset]).length := by
  simp only [directoryRecord, sharedFields, ByteArray.size_append, List.size_toByteArray,
    List.length_append, length_encode, size_toUTF8, recordSize]

variable {bytes : ByteArray} {entry : Entry}

/-- Behind a local record, the packed bytes begin. -/
theorem packedStart?_localRecord {place : Nat} (storable : entry.Storable)
    (h : Stands bytes place (localRecord entry)) :
    packedStart? bytes place = some (place + (localRecord entry).size) := by
  rw [size_localRecord]
  simp only [localRecord, sharedFields, List.toByteArray_append, stands_append, and_assoc,
    ByteArray.size_append, List.size_toByteArray, length_encode, Nat.add_assoc, Nat.reduceAdd] at h
  obtain ⟨signature, -, -, -, -, -, -, -, -, name, extra, -⟩ := h
  rw [packedStart?, signature.signatureAt_eq (by decide), name.field?_eq storable.name,
    extra.field?_eq (by decide)]
  simp only [Bool.not_true, Bool.false_eq_true, if_false, Option.bind_eq_bind, Option.bind_some,
    Nat.add_zero, Nat.add_assoc]
  rfl

theorem length_wideField_lt (size packedSize offset : Nat) :
    (wideField [size, packedSize, offset]).length < 256 ^ 2 := by
  have length : ([size, packedSize, offset].flatMap wideBytes).length ≤ 24 := by
    simp only [List.flatMap_cons, List.flatMap_nil, List.length_append, List.length_nil,
      length_wideBytes]
    split_ifs <;> decide
  rw [wideField_eq]
  split
  · decide
  · simp only [List.length_append, length_encode]
    omega

theorem slice?_zero {place : Nat} (inside : place ≤ bytes.size) :
    slice? bytes place 0 = some (bytes.extract place place) := by
  rw [slice?, Nat.add_zero, if_pos inside]

/-- The record of an entry is read as the entry that was written, where its local record and its
    packed bytes stand before the directory. -/
theorem readRecord?_directoryRecord {directory : DirectoryPlace} {place offset : Nat}
    (storable : entry.Storable) (narrow : entry.packedSize < 2 ^ 64 ∧ offset < 2 ^ 64)
    (record : Stands bytes place (directoryRecord entry offset))
    (body : Stands bytes (directory.base + offset) (localRecord entry ++ entry.packed))
    (before : directory.base + offset < directory.start) :
    readRecord? bytes directory place =
      some (entry, place + (directoryRecord entry offset).size) := by
  obtain ⟨header, packed⟩ := stands_append.mp body
  have start := packedStart?_localRecord storable header
  have content := (stands_iff.mp packed).2
  rw [storable.packed] at content
  have inside := (stands_iff.mp record).1
  rw [size_directoryRecord] at inside ⊢
  simp only [directoryRecord, sharedFields, List.toByteArray_append, stands_append, and_assoc,
    ByteArray.size_append, List.size_toByteArray, length_encode, Nat.add_assoc, Nat.reduceAdd]
    at record
  obtain ⟨signature, -, -, flags, method, time, date, checksum, packedSize, size, nameLength,
    extraLength, commentLength, -, -, -, offset', name, extra⟩ := record
  have narrowed (number : Nat) : min wide32 number < 256 ^ 4 :=
    Nat.lt_of_le_of_lt (Nat.min_le_left _ _) (by decide)
  rw [readRecord?, signature.signatureAt_eq (by decide), flags.field?_eq (nameFlags_lt _),
    method.field?_eq storable.method, time.field?_eq storable.time, date.field?_eq storable.date,
    checksum.field?_eq storable.checksum, packedSize.field?_eq (narrowed _),
    size.field?_eq (narrowed _), nameLength.field?_eq storable.name,
    extraLength.field?_eq (length_wideField_lt _ _ _), commentLength.field?_eq (by decide),
    offset'.field?_eq (narrowed _)]
  simp only [Bool.not_true, Bool.false_eq_true, if_false, Option.bind_eq_bind, Option.bind_some]
  have plainName : slice? bytes (place + recordSize) entry.name.utf8ByteSize =
      some entry.name.toUTF8 := name
  have extra' : slice? bytes (place + recordSize + entry.name.utf8ByteSize)
      (wideField [entry.size, entry.packedSize, offset]).length =
        some (wideField [entry.size, entry.packedSize, offset]).toByteArray := by
    have extra := extra
    rw [Stands, List.size_toByteArray] at extra
    rwa [Nat.add_assoc]
  rw [plainName, extra', slice?_zero (by omega)]
  simp only [Option.bind_some, Text.toList_eq, List.toList_data_toByteArray]
  rw [Listing.extend?_wideField ⟨storable.size, narrow⟩ ⟨rfl, rfl, rfl⟩ storable.unsealed]
  simp only [Option.bind_some, if_neg (Nat.not_le.mpr before), start, content, decodeName_toUTF8,
    hasFlag_nameFlags, storable.known, Option.isNone_some, Bool.or_self, Nat.add_zero]
  rw [Nat.add_assoc, Nat.add_assoc, Nat.add_assoc]
  exact congrArg (fun entry => some (entry, _)) storable.eta

end Stencil.Zip
