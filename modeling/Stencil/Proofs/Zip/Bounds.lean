import Stencil.Proofs.Zip.ExtraField
import Stencil.Proofs.Zip.Names

/-! # Bounds of numbers that are read

What is read of an entry fits the fields of a container again.

Main statement: `distinct_and_bounded_of_read`.
-/

namespace Stencil.Zip

theorem field?_lt {bytes : ByteArray} {place width value : Nat}
    (h : field? bytes place width = some value) : value < 256 ^ width := by
  rw [field?, slice?] at h
  split at h
  · next inside =>
    have size : (bytes.extract place (place + width)).toList.length = width := by
      rw [Text.toList_eq, Array.length_toList, ByteArray.size_data, ByteArray.size_extract]
      omega
    rw [Option.map_some, Option.some.injEq] at h
    have fits := decode_lt (bytes.extract place (place + width)).toList
    rwa [size, h] at fits
  · cases h

namespace ExtraField

variable {α β : Type}

/-- Reading that keeps the declared size within its field, and what holds of its result. -/
def Keeps (reader : Reader α) (post : α → Prop) : Prop :=
  ∀ progress : Progress, progress.listing.size < 2 ^ 64 →
    (reader.run progress).2.listing.size < 2 ^ 64 ∧
      ∀ value, (reader.run progress).1 = .ok value → post value

variable {post : α → Prop} {post' : β → Prop}

theorem Keeps.bind {first : Reader α} {next : α → Reader β} (h : Keeps first post)
    (h' : ∀ value, post value → Keeps (next value) post') : Keeps (first >>= next) post' := by
  intro progress bounded
  obtain ⟨kept, holds⟩ := h progress bounded
  rw [run_bind]
  cases found : first.run progress with
  | mk result after =>
    rw [found] at kept holds
    cases result with
    | error halt => exact ⟨kept, fun _ h => by cases h⟩
    | ok value => exact h' value (holds value rfl) after kept

theorem keeps_pure {value : α} (h : post value) : Keeps (pure value) post := by
  intro progress bounded
  refine ⟨bounded, fun other same => ?_⟩
  cases same
  exact h

theorem keeps_throw (halt : Halt) : Keeps (throw halt : Reader α) post :=
  fun _ bounded => ⟨bounded, fun _ h => by cases h⟩

theorem keeps_get : Keeps (get : Reader Progress) fun _ => True :=
  fun _ bounded => ⟨bounded, fun _ _ => trivial⟩

theorem keeps_tell {change : Listing → Listing}
    (h : ∀ listing, listing.size < 2 ^ 64 → (change listing).size < 2 ^ 64) :
    Keeps (tell change) fun _ => True :=
  fun progress bounded => ⟨h progress.listing bounded, fun _ _ => trivial⟩

theorem keeps_require (condition : Bool) : Keeps (require condition) fun _ => True := by
  rw [require]
  split
  · exact keeps_pure trivial
  · exact keeps_throw _

theorem keeps_takeBytes (count : Nat) : Keeps (takeBytes count) fun bytes => bytes.length = count := by
  intro progress bounded
  rw [takeBytes, run_bind, run_get]
  simp only
  split
  · exact ⟨bounded, fun _ h => by cases h⟩
  · next enough =>
    refine ⟨bounded, fun _ h => ?_⟩
    cases h
    rw [List.length_take]
    omega

theorem keeps_takeNumber (width : Nat) : Keeps (takeNumber width) fun number => number < 256 ^ width :=
  (keeps_takeBytes width).bind fun bytes length => keeps_pure (length ▸ decode_lt bytes)

theorem keeps_readWideNumber {length stated : Nat} {change : Nat → Listing → Listing}
    (h : ∀ number < 2 ^ 64, ∀ listing : Listing, listing.size < 2 ^ 64 →
      (change number listing).size < 2 ^ 64) :
    Keeps (readWideNumber length stated change) fun _ => True := by
  rw [readWideNumber]
  split
  · exact (keeps_takeNumber 8).bind fun number fits =>
      (keeps_tell (h number fits)).bind fun _ _ => keeps_pure trivial
  · exact keeps_pure trivial

theorem keeps_readWide (length : Nat) : Keeps (readWide length) fun _ => True := by
  unfold readWide
  refine keeps_get.bind fun _ _ => ?_
  refine (keeps_readWideNumber ?_).bind fun _ _ => ?_
  · exact fun number fits listing _ => fits
  refine (keeps_readWideNumber ?_).bind fun _ _ => ?_
  · exact fun number _ listing bounded => bounded
  refine (keeps_readWideNumber ?_).bind fun _ _ => ?_
  · exact fun number _ listing bounded => bounded
  exact (keeps_require _).bind fun _ _ => (keeps_takeBytes _).bind fun _ _ => keeps_pure trivial

theorem keeps_readText (length : Nat) (owner : ByteArray) :
    Keeps (readText length owner) fun _ => True := by
  refine (keeps_takeNumber 1).bind fun _ _ => (keeps_takeNumber 4).bind fun _ _ =>
    (keeps_require _).bind fun _ _ => (keeps_takeBytes _).bind fun _ _ =>
    (keeps_require _).bind fun _ _ => ?_
  split
  · exact keeps_pure trivial
  · exact keeps_throw _

theorem keeps_readFineTimes (length : Nat) : Keeps (readFineTimes length) fun _ => True := by
  unfold readFineTimes
  exact (keeps_require _).bind fun _ _ => (keeps_takeNumber 4).bind fun _ _ =>
    (keeps_takeNumber 2).bind fun _ _ => (keeps_require _).bind fun _ _ =>
    (keeps_takeNumber 2).bind fun _ _ => (keeps_require _).bind fun _ _ =>
    (keeps_takeBytes 24).bind fun _ _ => keeps_pure trivial

theorem keeps_readTimes (length : Nat) : Keeps (readTimes length) fun _ => True := by
  unfold readTimes
  exact (keeps_takeNumber 1).bind fun _ _ => (keeps_require _).bind fun _ _ =>
    (keeps_require _).bind fun _ _ => (keeps_takeBytes _).bind fun _ _ => keeps_pure trivial

theorem keeps_readSeal (length : Nat) : Keeps (readSeal length) fun _ => True := by
  unfold readSeal
  refine (keeps_require _).bind fun _ _ => (keeps_takeNumber 2).bind fun _ _ =>
    (keeps_takeNumber 2).bind fun _ _ => (keeps_takeNumber 1).bind fun _ _ =>
    (keeps_takeNumber 2).bind fun _ _ => (keeps_require _).bind fun _ _ => keeps_tell ?_
  exact fun listing bounded => bounded

theorem keeps_readContent (kind length : Nat) : Keeps (readContent kind length) fun _ => True := by
  unfold readContent
  split
  · exact keeps_readWide length
  · exact keeps_readFineTimes length
  · exact keeps_readTimes length
  · refine keeps_get.bind fun _ _ => (keeps_readText _ _).bind fun _ _ => keeps_tell ?_
    exact fun listing bounded => bounded
  · refine keeps_get.bind fun _ _ => (keeps_readText _ _).bind fun _ _ => keeps_tell ?_
    exact fun listing bounded => bounded
  · exact keeps_readSeal length
  · exact (keeps_takeBytes _).bind fun _ _ => keeps_pure trivial

theorem keeps_readAll (fuel : Nat) : Keeps (readAll fuel) fun _ => True := by
  induction fuel with
  | zero => exact keeps_throw _
  | succ fuel ih =>
      exact (keeps_takeNumber 2).bind fun _ _ => (keeps_takeNumber 2).bind fun _ _ =>
        (keeps_readContent _ _).bind fun _ _ => ih

end ExtraField

theorem Listing.size_lt_of_extend? {listing extended : Listing} {extra : List UInt8}
    (bounded : listing.size < 2 ^ 64) (h : listing.extend? extra = some extended) :
    extended.size < 2 ^ 64 := by
  have kept := (ExtraField.keeps_readAll (extra.length + 1) { listing, rest := extra } bounded).1
  unfold Listing.extend? at h
  split at h
  · cases h
  · next told =>
    rw [told] at kept
    split at h
    · cases h
    · cases h
      exact kept

/-- The numbers of an entry fit their fields. -/
structure Entry.Bounded (entry : Entry) : Prop where
  date : entry.modified.date < 2 ^ 16
  time : entry.modified.time < 2 ^ 16
  checksum : entry.checksum < 2 ^ 32
  size : entry.size < 2 ^ 64

theorem bounded_of_readRecord? {bytes : ByteArray} {directory : DirectoryPlace}
    {place next : Nat} {entry : Entry}
    (h : readRecord? bytes directory place = some (entry, next)) : entry.Bounded := by
  unfold readRecord? at h
  split at h
  · cases h
  obtain ⟨flags, -, h⟩ := Option.bind_eq_some_iff.mp h
  obtain ⟨method, -, h⟩ := Option.bind_eq_some_iff.mp h
  obtain ⟨time, readTime, h⟩ := Option.bind_eq_some_iff.mp h
  obtain ⟨date, readDate, h⟩ := Option.bind_eq_some_iff.mp h
  obtain ⟨checksum, readChecksum, h⟩ := Option.bind_eq_some_iff.mp h
  obtain ⟨packedSize, -, h⟩ := Option.bind_eq_some_iff.mp h
  obtain ⟨size, readSize, h⟩ := Option.bind_eq_some_iff.mp h
  obtain ⟨nameLength, -, h⟩ := Option.bind_eq_some_iff.mp h
  obtain ⟨extraLength, -, h⟩ := Option.bind_eq_some_iff.mp h
  obtain ⟨commentLength, -, h⟩ := Option.bind_eq_some_iff.mp h
  obtain ⟨offset, -, h⟩ := Option.bind_eq_some_iff.mp h
  obtain ⟨plainName, -, h⟩ := Option.bind_eq_some_iff.mp h
  obtain ⟨extra, -, h⟩ := Option.bind_eq_some_iff.mp h
  obtain ⟨comment, -, h⟩ := Option.bind_eq_some_iff.mp h
  obtain ⟨listing, extended, h⟩ := Option.bind_eq_some_iff.mp h
  have declared : listing.size < 2 ^ 64 :=
    Listing.size_lt_of_extend? (Nat.lt_trans (field?_lt readSize) (by decide)) extended
  dsimp only at h
  split at h
  · cases h
  · cases h
    exact ⟨field?_lt readDate, field?_lt readTime, field?_lt readChecksum, declared⟩

theorem bounded_of_readRecords? {bytes : ByteArray} {directory : DirectoryPlace}
    {count place : Nat} {before entries : List Entry} (bounded : ∀ entry ∈ before, entry.Bounded)
    (h : readRecords? bytes directory count place before = some entries) :
    ∀ entry ∈ entries, entry.Bounded := by
  induction count generalizing place before with
  | zero =>
      cases h
      exact fun entry mem => bounded entry (List.mem_reverse.mp mem)
  | succ count ih =>
      rw [readRecords?] at h
      split at h
      · next entry next read =>
        exact ih (List.forall_mem_cons.mpr ⟨bounded_of_readRecord? read, bounded⟩) h
      · cases h

theorem exists_of_lastPlace? {α : Type} {read : Nat → Option α} {stop : Nat} {found : α}
    (h : lastPlace? read stop = some found) : ∃ place, read place = some found := by
  induction stop with
  | zero => cases h
  | succ place ih =>
      rw [lastPlace?] at h
      split at h
      · next here =>
        cases h
        exact ⟨place, here⟩
      · exact ih h

/-- The entries of a container have different names, and their numbers fit their fields. -/
theorem distinct_and_bounded_of_read {bytes : ByteArray} {entries : List Entry}
    (h : read bytes = .ok entries) :
    (entries.map Entry.name).Nodup ∧ ∀ entry ∈ entries, entry.Bounded := by
  unfold read at h
  split at h
  · next found =>
    cases h
    obtain ⟨place, found⟩ := exists_of_lastPlace? found
    unfold readAt? at found
    split at found
    · cases found
    simp only [Option.bind_eq_bind, Option.bind_eq_some_iff, Option.pure_def,
      Option.some.injEq] at found
    obtain ⟨directory, -, listed, read, rfl⟩ := found
    exact ⟨nodup_uniqueByName listed,
      forall_uniqueByName (bounded_of_readRecords? (by simp) read)⟩
  · cases h

end Stencil.Zip
