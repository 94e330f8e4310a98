import Stencil.Proofs.Zip.EndRecord
import Stencil.Proofs.Zip.Names
import Stencil.Proofs.Zip.Record

/-! # Written containers

A container is read as the entries that were written into it.

Main statement: `read_of_write`.
-/

namespace Stencil.Zip

/-- The local records of entries, each with its packed bytes. -/
def bodyOf : List Entry → ByteArray
  | [] => ByteArray.empty
  | entry :: rest => localRecord entry ++ entry.packed ++ bodyOf rest

/-- The directory of entries whose local records begin behind `offset` bytes. -/
def directoryOf (offset : Nat) : List Entry → ByteArray
  | [] => ByteArray.empty
  | entry :: rest => directoryRecord entry offset ++
      directoryOf (offset + (localRecord entry ++ entry.packed).size) rest

theorem foldl_add (draft : Draft) (entries : List Entry) :
    entries.foldl Draft.add draft =
      { body := draft.body ++ bodyOf entries
        directory := draft.directory ++ directoryOf draft.body.size entries
        count := draft.count + entries.length } := by
  induction entries generalizing draft with
  | nil => simp only [List.foldl_nil, bodyOf, directoryOf, ByteArray.append_empty,
      List.length_nil, Nat.add_zero]
  | cons entry rest ih =>
      rw [List.foldl_cons, ih]
      simp only [Draft.add, bodyOf, directoryOf, ByteArray.append_assoc, ByteArray.size_append,
        List.length_cons, Nat.add_assoc, Nat.add_comm 1]

/-- The bytes of a container: the entries, their directory and the end record. -/
theorem finish_eq (entries : List Entry) :
    (entries.foldl Draft.add Draft.empty).finish =
      bodyOf entries ++ (directoryOf 0 entries ++
        endRecord entries.length (directoryOf 0 entries).size (bodyOf entries).size) := by
  simp only [foldl_add, Draft.finish, Draft.empty, ByteArray.empty_append, ByteArray.size_empty,
    Nat.zero_add, ByteArray.append_assoc]

theorem length_le_size_directoryOf (offset : Nat) (entries : List Entry) :
    entries.length * recordSize ≤ (directoryOf offset entries).size := by
  induction entries generalizing offset with
  | nil => exact Nat.le_of_eq (Nat.zero_mul _)
  | cons entry rest ih =>
      have later := ih (offset + (localRecord entry ++ entry.packed).size)
      rw [directoryOf, ByteArray.size_append, size_directoryRecord, List.length_cons]
      simp only [recordSize] at later ⊢
      omega

/-- A container is no larger than its packed bytes, with as much again for each entry as the fields of
    its records have room for. -/
theorem size_finish_le {entries : List Entry} {bound : Nat}
    (light : ∀ entry ∈ entries, entry.packed.size ≤ bound)
    (named : ∀ entry ∈ entries, entry.name.utf8ByteSize < 2 ^ 16) :
    (entries.foldl Draft.add Draft.empty).finish.size ≤
      entries.length * (bound + 2 ^ 18) + 2 ^ 18 := by
  have parts (offset : Nat) : (bodyOf entries).size + (directoryOf offset entries).size ≤
      entries.length * (bound + 2 ^ 18) := by
    induction entries generalizing offset with
    | nil => simp [bodyOf, directoryOf]
    | cons entry rest ih =>
        rw [List.forall_mem_cons] at light named
        have later := ih light.2 named.2 (offset + (localRecord entry ++ entry.packed).size)
        have wide := length_wideField_lt entry.size entry.packedSize offset
        have here := light.1
        have name := named.1
        simp only [bodyOf, directoryOf, ByteArray.size_append, size_localRecord, size_directoryRecord,
          localSize, recordSize, List.length_cons, Nat.add_mul, Nat.one_mul] at later ⊢
        omega
  have ending : (endRecord entries.length (directoryOf 0 entries).size
      (bodyOf entries).size).size ≤ 2 ^ 18 := by
    rw [size_endRecord, wideRecord]
    split
    · rw [length_wideEndRecord]
      decide
    · decide
  have both := parts 0
  rw [finish_eq, ByteArray.size_append, ByteArray.size_append]
  omega

variable {bytes : ByteArray}

/-- The records of a directory are read as the entries that were written. -/
theorem readRecords?_directoryOf {directory : DirectoryPlace} {entries : List Entry}
    (storable : ∀ entry ∈ entries, entry.Storable) {place offset : Nat} (read : List Entry)
    (records : Stands bytes place (directoryOf offset entries))
    (body : Stands bytes (directory.base + offset) (bodyOf entries))
    (before : directory.base + offset + (bodyOf entries).size ≤ directory.start)
    (narrow : offset + (bodyOf entries).size < 2 ^ 64) :
    readRecords? bytes directory entries.length place read = some (read.reverse ++ entries) := by
  induction entries generalizing place offset read with
  | nil =>
      rw [List.append_nil]
      rfl
  | cons entry rest ih =>
      rw [List.forall_mem_cons] at storable
      rw [directoryOf, stands_append] at records
      rw [bodyOf, stands_append] at body
      rw [bodyOf, ByteArray.size_append] at before narrow
      have packed := storable.1.packed
      have size : (localRecord entry ++ entry.packed).size =
          localSize + entry.name.utf8ByteSize + entry.packedSize := by
        rw [ByteArray.size_append, size_localRecord, packed]
      have first := readRecord?_directoryRecord storable.1 (by omega) records.1 body.1
        (by simp only [localSize] at size; omega)
      rw [List.length_cons, readRecords?, first]
      simp only
      rw [ih storable.2 (entry :: read) records.2 (by rw [← Nat.add_assoc]; exact body.2)
        (by omega) (by omega), List.reverse_cons, List.append_assoc, List.singleton_append]

theorem lastPlace?_of_some {α : Type} {read : Nat → Option α} {place : Nat} {found : α}
    (h : read place = some found) : lastPlace? read (place + 1) = some found := by
  rw [lastPlace?, h]

/-- The end record of a container leads to its entries. -/
theorem readAt?_of_ends {entries : List Entry} (distinct : (entries.map Entry.name).Nodup)
    (storable : ∀ entry ∈ entries, entry.Storable) (body : Stands bytes 0 (bodyOf entries))
    (records : Stands bytes (bodyOf entries).size (directoryOf 0 entries))
    (ends : Ends bytes entries.length (directoryOf 0 entries).size (bodyOf entries).size)
    (narrow : bytes.size < 2 ^ 64) : readAt? bytes (bytes.size - endSize) = some entries := by
  have last := ends.last
  have first : entries.length ≠ 0 →
      Stands bytes (bodyOf entries).size (encode 4 recordSignature).toByteArray := by
    intro some
    obtain ⟨entry, rest, rfl⟩ := List.exists_cons_of_length_pos (Nat.pos_of_ne_zero some)
    simp only [directoryOf, directoryRecord, List.toByteArray_append, stands_append, and_assoc]
      at records
    exact records.1
  obtain ⟨directory, found, count, placed⟩ := ends.exists_directoryPlace?_eq (by omega) first
  have listed : readRecords? bytes directory directory.count directory.start [] = some entries := by
    rw [count]
    by_cases empty : entries.length = 0
    · rw [List.eq_nil_of_length_eq_zero empty]
      rfl
    · obtain ⟨base, start⟩ := placed empty
      rw [← start] at records
      have body : Stands bytes (directory.base + 0) (bodyOf entries) := by
        rw [base]
        exact body
      have before : directory.base + 0 + (bodyOf entries).size ≤ directory.start := by omega
      have room : 0 + (bodyOf entries).size < 2 ^ 64 := by omega
      have listed := readRecords?_directoryOf storable [] records body before room
      rwa [List.reverse_nil, List.nil_append] at listed
  rw [readAt?, ends.read?_eq.1, found]
  simp only [Bool.not_true, Bool.false_eq_true, if_false, Option.bind_eq_bind, Option.bind_some,
    listed, uniqueByName_of_nodup distinct, Option.pure_def]

/-- A container is read as the entries that were written into it. -/
theorem read_of_write {entries : List Entry} (written : write entries = .ok bytes)
    (storable : ∀ entry ∈ entries, entry.Storable) (narrow : bytes.size < 2 ^ 64) :
    read bytes = .ok entries := by
  obtain ⟨distinct, same⟩ := write_eq_ok.mp written
  rw [finish_eq] at same
  have whole := stands_self bytes
  have size := congrArg ByteArray.size same
  simp only [ByteArray.size_append] at size
  rw [← same, stands_append, stands_append, Nat.zero_add, same] at whole
  have ends : Ends bytes entries.length (directoryOf 0 entries).size (bodyOf entries).size :=
    ⟨whole.2.2, by omega, length_le_size_directoryOf 0 entries⟩
  have found := readAt?_of_ends distinct storable whole.1 whole.2.1 ends narrow
  have last : bytes.size + 1 - endSize = bytes.size - endSize + 1 := by
    rw [size_endRecord] at size
    omega
  have found : lastPlace? (readAt? bytes) (bytes.size + 1 - endSize) = some entries := by
    rw [last]
    exact lastPlace?_of_some found
  unfold read
  rw [found]

end Stencil.Zip
