import Stencil.Proofs.Text.Utf8
import Stencil.Zip.Draft
import Stencil.Zip.ExtraField

/-! # Written fields

Fields are read where they were written: a number as far as its bytes can hold it, and the name of
an entry by the flags that were written for it.

Main statements: `Stands.field?_eq`, `decodeName_toUTF8`.
-/

namespace Stencil.Zip

theorem decode_lt (bytes : List UInt8) : decode bytes < 256 ^ bytes.length := by
  induction bytes with
  | nil => exact Nat.one_pos
  | cons byte rest ih =>
      have small := byte.toNat_lt
      rw [decode, List.length_cons, Nat.pow_succ]
      omega

/-- A record holds a field at a place. -/
def Stands (bytes : ByteArray) (place : Nat) (field : ByteArray) : Prop :=
  slice? bytes place field.size = some field

theorem stands_iff {bytes : ByteArray} {place : Nat} {field : ByteArray} :
    Stands bytes place field ↔ place + field.size ≤ bytes.size ∧
      bytes.extract place (place + field.size) = field := by
  rw [Stands, slice?]
  split
  · next inside => exact ⟨fun h => ⟨inside, Option.some.inj h⟩, fun h => congrArg some h.2⟩
  · next outside => exact ⟨fun h => (by cases h), fun h => absurd h.1 outside⟩

theorem stands_append {bytes : ByteArray} {place : Nat} {one other : ByteArray} :
    Stands bytes place (one ++ other) ↔
      Stands bytes place one ∧ Stands bytes (place + one.size) other := by
  rw [stands_iff, stands_iff, stands_iff, ByteArray.size_append, ← Nat.add_assoc]
  constructor
  · rintro ⟨inside, whole⟩
    rw [ByteArray.extract_eq_extract_append_extract (place + one.size) (by omega) (by omega),
      ByteArray.append_eq_append_iff_of_size_eq_left (by rw [ByteArray.size_extract]; omega)]
      at whole
    exact ⟨⟨by omega, whole.1⟩, inside, whole.2⟩
  · rintro ⟨⟨-, first⟩, inside, second⟩
    rw [ByteArray.extract_eq_extract_append_extract (place + one.size) (by omega) (by omega),
      first, second]
    exact ⟨inside, rfl⟩

theorem stands_self (bytes : ByteArray) : Stands bytes 0 bytes := by
  rw [stands_iff, Nat.zero_add]
  exact ⟨Nat.le_refl _, ByteArray.extract_zero_size⟩

/-- A number reads back where it was written. -/
theorem Stands.field?_eq {bytes : ByteArray} {place width value : Nat}
    (h : Stands bytes place (encode width value).toByteArray) (fits : value < 256 ^ width) :
    field? bytes place width = some value := by
  rw [Stands, List.size_toByteArray, length_encode] at h
  rw [field?, h, Option.map_some, Text.toList_eq, List.toList_data_toByteArray, decode_encode,
    Nat.mod_eq_of_lt fits]

theorem Stands.signatureAt_eq {bytes : ByteArray} {place signature : Nat}
    (h : Stands bytes place (encode 4 signature).toByteArray) (fits : signature < 256 ^ 4) :
    signatureAt bytes place signature = true := by
  rw [signatureAt, h.field?_eq fits]
  exact decide_eq_true rfl

theorem Stands.getElem?_eq {bytes : ByteArray} {place : Nat} {byte : UInt8} {rest : List UInt8}
    (h : Stands bytes place (byte :: rest).toByteArray) : bytes[place]? = some byte := by
  have split : (byte :: rest).toByteArray = [byte].toByteArray ++ rest.toByteArray := by
    rw [← List.toByteArray_append, List.singleton_append]
  rw [split, stands_append, stands_iff, List.size_toByteArray, List.length_singleton] at h
  obtain ⟨⟨inside, first⟩, -⟩ := h
  rw [ByteArray.extract_add_one inside, List.toByteArray_inj] at first
  rw [getElem?_pos bytes place (by omega), List.head_eq_of_cons_eq first]

theorem codePageChar_ofNat {code : Nat} (small : code < 128) :
    codePageChar (UInt8.ofNat code) = Char.ofNat code := by
  have value : (UInt8.ofNat code).toNat = code := Nat.mod_eq_of_lt (by omega)
  rw [codePageChar, value, if_pos small]

theorem map_codePageChar {chars : List Char} (ascii : ∀ c ∈ chars, c.toNat < 128) :
    (chars.flatMap String.utf8EncodeChar).map codePageChar = chars := by
  induction chars with
  | nil => rfl
  | cons c rest ih =>
      rw [List.forall_mem_cons] at ascii
      have one : String.utf8EncodeChar c = [UInt8.ofNat c.toNat] :=
        if_pos (Nat.le_of_lt_succ ascii.1)
      rw [List.flatMap_cons, one, List.singleton_append, List.map_cons, ih ascii.2,
        codePageChar_ofNat ascii.1, Char.ofNat_toNat]

/-- The name of an entry is read as it was written, whatever characters it has. -/
theorem decodeName_toUTF8 (name : String) :
    decodeName (hasFlag (nameFlags name) utf8Flag) name.toUTF8 = name := by
  rw [nameFlags]
  split
  · next ascii =>
    have plain : hasFlag 0 utf8Flag = false := rfl
    rw [decodeName, plain, if_neg Bool.false_ne_true, Text.toList_toUTF8,
      map_codePageChar fun c mem => of_decide_eq_true (List.all_eq_true.mp ascii c mem),
      String.ofList_toList]
  · have marked : hasFlag utf8Flag utf8Flag = true := rfl
    rw [decodeName, marked, if_pos rfl, Text.decodeLossy_toUTF8, String.ofList_toList]

end Stencil.Zip
