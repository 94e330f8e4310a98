import Stencil.Proofs.Zip.Bounds
import Stencil.Proofs.Zip.Field
import Stencil.Proofs.Zip.Record
import Stencil.Zip.Deflate

/-! # Entries that are written

A stream of stored blocks holds the bytes that it was made of, so that an entry that is written anew
is unpacked to its bytes. It can be held by a container, and so can an entry that was read from one.

Main statements: `Deflate.inflate_deflate`, `Entry.unpack_create`, `Entry.storable_create`,
`Entry.storable_of_isReadable`.
-/

namespace Stencil.Zip.Deflate

variable {stream : ByteArray}

theorem size_storedBlock (last : Bool) (chunk : ByteArray) :
    (storedBlock last chunk).size = 5 + chunk.size := by
  simp only [storedBlock, ByteArray.size_append, List.size_toByteArray, List.length_append,
    List.length_cons, length_encode]

theorem lowBit?_of_getElem? {place : Nat} {byte : UInt8} (h : stream[place]? = some byte)
    {bit : Nat} (within : bit < 8) :
    lowBit? stream (8 * place + bit) = some ((byte.toNat >>> bit) % 2) := by
  obtain ⟨inside, same⟩ := getElem?_eq_some_iff.mp h
  have quotient : (8 * place + bit) / 8 = place := by omega
  have remainder : (8 * place + bit) % 8 = bit := by omega
  simp only [lowBit?, quotient, remainder, dif_pos inside, same]

/-- The three bits before a stored block. -/
theorem header_storedBlock {place : Nat} {last : Bool} {chunk : ByteArray}
    (h : Stands stream place (storedBlock last chunk)) :
    lowBit? stream (8 * place) = some (if last then 1 else 0) ∧
      lowBits? stream (8 * place + 1) 2 = some 0 := by
  rw [storedBlock, stands_append] at h
  have byte := h.1.getElem?_eq
  have bit (number : Nat) (within : number < 8) := lowBit?_of_getElem? byte within
  have second : lowBit? stream (8 * place + 1) = _ := bit 1 (by decide)
  have third : lowBit? stream (8 * place + 1 + 1) = _ := bit 2 (by decide)
  refine ⟨(bit 0 (by decide)).trans (by cases last <;> rfl), ?_⟩
  simp only [lowBits?, second, third, Option.bind_eq_bind, Option.bind_some, Option.pure_def]
  cases last <;> rfl

/-- A stored block is read as its bytes. -/
theorem readStored_storedBlock {place : Nat} {last : Bool} {chunk : ByteArray}
    (h : Stands stream place (storedBlock last chunk)) (short : chunk.size ≤ greatestBlock)
    (output : ByteArray) :
    readStored stream (8 * place + 3) output =
      (output ++ chunk, .ok (8 * (place + (storedBlock last chunk).size))) := by
  rw [size_storedBlock]
  simp only [greatestBlock] at short
  have split : (if last then 1 else 0) :: encode 2 chunk.size ++ encode 2 (0xFFFF - chunk.size) =
    [if last then (1 : UInt8) else 0] ++ encode 2 chunk.size ++ encode 2 (0xFFFF - chunk.size) := rfl
  rw [storedBlock, split] at h
  simp only [List.toByteArray_append, stands_append, and_assoc, ByteArray.size_append,
    List.size_toByteArray, length_encode, List.length_singleton, Nat.reduceAdd] at h
  obtain ⟨-, length, turned, data⟩ := h
  have start : (8 * place + 3 + 7) / 8 = place + 1 := by omega
  rw [readStored, start, length.field?_eq (by omega), turned.field?_eq (by omega)]
  have sum : chunk.size + (0xFFFF - chunk.size) = 0xFFFF := by omega
  have content := (stands_iff.mp data).2
  have begins : place + 1 + 4 = place + 5 := rfl
  simp only [sum, ne_eq, not_true_eq_false, if_false, begins, content, if_true]
  rw [Nat.add_assoc]

/-- Reading goes on behind a stored block, unless it is the last one. -/
theorem readBlocks_storedBlock {kind : Kind} {limit fuel place : Nat} {last : Bool}
    {chunk output : ByteArray} (h : Stands stream place (storedBlock last chunk))
    (short : chunk.size ≤ greatestBlock) (within : output.size ≤ limit) :
    kind.readBlocks limit stream (fuel + 1) (8 * place) output =
      if last then (output ++ chunk, .complete)
      else kind.readBlocks limit stream fuel (8 * (place + (storedBlock last chunk).size))
        (output ++ chunk) := by
  obtain ⟨first, form⟩ := header_storedBlock h
  rw [Kind.readBlocks, if_neg (Nat.not_lt.mpr within), first, form]
  simp only [Kind.readBlock, readStored_storedBlock h short]
  cases last <;> rfl

theorem storedFrom_of_more {data : ByteArray} {start : Nat}
    (more : start + greatestBlock < data.size) (stream : ByteArray) :
    storedFrom data start stream = storedFrom data (start + greatestBlock)
      (stream ++ storedBlock false (data.extract start (start + greatestBlock))) := by
  rw [storedFrom, if_pos more]

theorem storedFrom_of_last {data : ByteArray} {start : Nat}
    (last : ¬ start + greatestBlock < data.size) (stream : ByteArray) :
    storedFrom data start stream =
      stream ++ storedBlock true (data.extract start data.size) := by
  rw [storedFrom, if_neg last]

theorem storedFrom_append (data : ByteArray) (start : Nat) (stream : ByteArray) :
    storedFrom data start stream = stream ++ storedFrom data start ByteArray.empty := by
  induction count : data.size - start using Nat.strongRecOn generalizing start stream with
  | ind _ ih =>
      by_cases more : start + greatestBlock < data.size
      · have fewer : data.size - (start + greatestBlock) < data.size - start := by
          simp only [greatestBlock] at more ⊢
          omega
        rw [storedFrom_of_more more, storedFrom_of_more more, ih _ (count ▸ fewer) _ _ rfl,
          ih _ (count ▸ fewer) _ (ByteArray.empty ++ _) rfl, ByteArray.empty_append, ByteArray.append_assoc]
      · rw [storedFrom_of_last more, storedFrom_of_last more, ByteArray.empty_append]

/-- Each block adds its header, and each but the last one has more than one byte. -/
theorem size_storedFrom_le (data : ByteArray) (start : Nat) (stream : ByteArray) :
    (storedFrom data start stream).size ≤ stream.size + 6 * (data.size - start) + 5 := by
  induction count : data.size - start using Nat.strongRecOn generalizing start stream with
  | ind _ ih =>
      by_cases more : start + greatestBlock < data.size
      · have later := ih _ (by simp only [greatestBlock] at more ⊢; omega) (start + greatestBlock)
          (stream ++ storedBlock false (data.extract start (start + greatestBlock))) rfl
        rw [storedFrom_of_more more]
        rw [ByteArray.size_append, size_storedBlock, ByteArray.size_extract] at later
        simp only [greatestBlock] at more later ⊢
        omega
      · rw [storedFrom_of_last more, ByteArray.size_append, size_storedBlock, ByteArray.size_extract]
        omega

/-- Behind the bytes before them, stored blocks are read as the bytes they were made of. -/
theorem readBlocks_storedFrom {kind : Kind} {data : ByteArray} {limit fuel place start : Nat}
    (h : Stands stream place (storedFrom data start ByteArray.empty)) (before : start ≤ data.size)
    (within : data.size ≤ limit) (enough : stream.size < place + fuel) :
    kind.readBlocks limit stream fuel (8 * place) (data.extract 0 start) = (data, .complete) := by
  induction count : data.size - start using Nat.strongRecOn generalizing start place fuel with
  | ind _ ih =>
      have inside := (stands_iff.mp h).1
      obtain ⟨fuel, rfl⟩ := Nat.exists_eq_add_of_lt (show 0 < fuel by omega)
      have output : (data.extract 0 start).size ≤ limit := by
        rw [ByteArray.size_extract]
        omega
      by_cases more : start + greatestBlock < data.size
      · have fewer : data.size - (start + greatestBlock) < data.size - start := by
          simp only [greatestBlock] at more ⊢
          omega
        have short : (data.extract start (start + greatestBlock)).size ≤ greatestBlock := by
          rw [ByteArray.size_extract]
          omega
        have joined : data.extract 0 start ++ data.extract start (start + greatestBlock) =
            data.extract 0 (start + greatestBlock) :=
          (ByteArray.extract_eq_extract_append_extract start (by omega) (by omega)).symm
        rw [storedFrom_of_more more, storedFrom_append, ByteArray.empty_append, stands_append] at h
        rw [Nat.zero_add, readBlocks_storedBlock h.1 short output, joined]
        rw [size_storedBlock] at h ⊢
        exact ih _ (count ▸ fewer) h.2 (by omega) (by omega) rfl
      · have short : (data.extract start data.size).size ≤ greatestBlock := by
          rw [ByteArray.size_extract]
          omega
        have joined : data.extract 0 start ++ data.extract start data.size = data := by
          rw [← ByteArray.extract_eq_extract_append_extract start (by omega) before,
            ByteArray.extract_zero_size]
        rw [storedFrom_of_last more, ByteArray.empty_append] at h
        rw [Nat.zero_add, readBlocks_storedBlock h short output, joined]
        rfl

/-- A stream of stored blocks holds the bytes that it was made of. -/
theorem inflate_deflate {kind : Kind} {data : ByteArray} {limit : Nat}
    (within : data.size ≤ limit) : inflate kind limit (deflate data) = (data, .complete) := by
  have none : data.extract 0 0 = ByteArray.empty := ByteArray.extract_same
  rw [inflate, ← none]
  have enough : (deflate data).size < 0 + (bitCount (deflate data) + 1) := by
    simp only [bitCount]
    omega
  exact readBlocks_storedFrom (stands_self _) (Nat.zero_le _) within enough

end Stencil.Zip.Deflate

namespace Stencil.Zip

/-- A method that is read is found by its number. -/
theorem Method.code_of_known {method : Method} (known : ∀ code, method ≠ .other code) :
    ofCode method.code = method ∧ method.code < 2 ^ 16 ∧ method.code ≠ sealedMethod := by
  cases method with
  | other code => exact absurd rfl (known code)
  | stored | deflated | deflate64 | bzip2 | lzma | zstd | xz => decide

namespace Entry

/-- The ways to pack an entry that is written anew. -/
def WrittenAs (method : Method) : Prop :=
  method = .stored ∨ method = .deflated

variable {name : String} {method : Method} {content : ByteArray} {limit : Nat} {entry : Entry}

theorem unpack_eq_ok (readable : entry.isReadable = .ok ())
    (unpacked : entry.method.unpack limit entry.packed = .ok content)
    (small : content.size ≤ limit) (checked : (Zip.checksum content).toNat = entry.checksum) :
    entry.unpack limit = .ok content := by
  unfold unpack
  rw [readable, unpacked]
  simp only [bind, Except.bind, if_neg (Nat.not_lt.mpr small), if_pos checked]
  rfl

/-- An entry written anew is unpacked to its bytes. -/
theorem unpack_create (written : WrittenAs method) (small : content.size ≤ limit) :
    (create name method content).unpack limit = .ok content := by
  rcases written with rfl | rfl
  · exact unpack_eq_ok rfl rfl small rfl
  · have unpacked : unpackDeflate .plain limit (Deflate.deflate content) = .ok content := by
      unfold unpackDeflate
      rw [Deflate.inflate_deflate small]
    exact unpack_eq_ok rfl unpacked small rfl

theorem size_packed_create_le (written : WrittenAs method) (name : String) (content : ByteArray) :
    (create name method content).packed.size ≤ 6 * content.size + 5 := by
  rcases written with rfl | rfl
  · change content.size ≤ 6 * content.size + 5
    omega
  · have bound := Deflate.size_storedFrom_le content 0 ByteArray.empty
    rw [ByteArray.size_empty, Nat.zero_add, Nat.sub_zero] at bound
    exact bound

theorem storable_create (written : WrittenAs method) (named : name.utf8ByteSize < 2 ^ 16)
    (small : content.size < 2 ^ 64) : (create name method content).Storable := by
  have known : ∀ code, method ≠ .other code := by rcases written with rfl | rfl <;> simp
  have code := Method.code_of_known known
  have time : Timestamp.earliest.date < 2 ^ 16 ∧ Timestamp.earliest.time < 2 ^ 16 := by decide
  exact
    { name := named, known := code.1, method := code.2.1, unsealed := code.2.2, plain := rfl
      found := rfl, date := time.1, time := time.2, checksum := (Zip.checksum content).toNat_lt
      size := small, packed := rfl }

/-- An entry that can be unpacked can be written again, as far as it is all there. -/
theorem storable_of_isReadable (readable : entry.isReadable = .ok ()) (bounded : entry.Bounded)
    (named : entry.name.utf8ByteSize < 2 ^ 16) (whole : entry.packed.size = entry.packedSize) :
    entry.Storable := by
  unfold isReadable at readable
  split at readable
  · cases readable
  · next plain =>
    split at readable
    · cases readable
    · next found =>
      have known : ∀ code, entry.method ≠ .other code := fun code same => by
        rw [same] at readable
        cases readable
      have code := Method.code_of_known known
      exact
        { name := named, known := code.1, method := code.2.1, unsealed := code.2.2
          plain := Bool.eq_false_iff.mpr plain, found := Bool.eq_false_iff.mpr found
          date := bounded.date, time := bounded.time, checksum := bounded.checksum
          size := bounded.size, packed := whole }

end Entry

end Stencil.Zip
