import Mathlib.Data.List.Basic
import Stencil.Text.Utf8

/-! # Encoded text

Text that is encoded in UTF-8 is decoded as it was, character by character.

Main statement: `decodeLossy_toUTF8`.
-/

namespace Stencil.Text

theorem toList_loop_eq (bytes : ByteArray) (place : Nat) (read : List UInt8) :
    ByteArray.toList.loop bytes place read = read.reverse ++ bytes.data.toList.drop place := by
  induction place, read using ByteArray.toList.loop.induct bytes with
  | case1 place read inside ih =>
      have here : place < bytes.data.toList.length := inside
      have byte : bytes.get! place = bytes.data.toList[place] := getElem!_pos bytes.data place inside
      rw [ByteArray.toList.loop, if_pos inside, ih, byte, List.drop_eq_getElem_cons here,
        List.reverse_cons, List.append_assoc, List.singleton_append]
  | case2 place read behind =>
      have none : bytes.data.toList.length ≤ place := Nat.le_of_not_lt behind
      rw [ByteArray.toList.loop, if_neg behind, List.drop_eq_nil_of_le none, List.append_nil]

/-- The bytes of an array, one by one. -/
theorem toList_eq (bytes : ByteArray) : bytes.toList = bytes.data.toList := by
  rw [ByteArray.toList, toList_loop_eq]
  rfl

variable {code : Nat}

/-- Within a character, a byte that may come next adds six bits. -/
theorem decodeFrom_next {missing least greatest byte : Nat} (more : 1 < missing)
    (low : least ≤ byte) (high : byte ≤ greatest) (small : byte < 256) (rest : List UInt8) :
    decodeFrom missing code least greatest (UInt8.ofNat byte :: rest) =
      decodeFrom (missing - 1) (code * 64 + byte % 64) 0x80 0xBF rest := by
  have value : (UInt8.ofNat byte).toNat = byte := Nat.mod_eq_of_lt small
  rw [decodeFrom]
  simp only [value]
  rw [if_pos ⟨by omega, low, high⟩, if_neg (by omega)]

/-- The last byte of a character completes it. -/
theorem decodeFrom_last {least greatest byte : Nat} (low : least ≤ byte) (high : byte ≤ greatest)
    (small : byte < 256) (rest : List UInt8) :
    decodeFrom 1 code least greatest (UInt8.ofNat byte :: rest) =
      Char.ofNat (code * 64 + byte % 64) :: decodeFrom 0 0 0 0 rest := by
  have value : (UInt8.ofNat byte).toNat = byte := Nat.mod_eq_of_lt small
  rw [decodeFrom]
  simp only [value]
  rw [if_pos ⟨Nat.one_pos, low, high⟩, if_pos trivial]

theorem decodeFrom_ascii {byte : Nat} (small : byte < 0x80) (rest : List UInt8) :
    decodeFrom 0 0 0 0 (UInt8.ofNat byte :: rest) = Char.ofNat byte :: decodeFrom 0 0 0 0 rest := by
  have value : (UInt8.ofNat byte).toNat = byte := Nat.mod_eq_of_lt (by omega)
  rw [decodeFrom]
  simp only [value]
  rw [if_neg (by omega), if_neg (by omega), if_pos small, List.nil_append]

theorem decodeFrom_lead {byte missing code least greatest : Nat} (small : byte < 256)
    (high : 0x80 ≤ byte) (lead : leadByte? byte = some (missing, code, least, greatest))
    (rest : List UInt8) :
    decodeFrom 0 0 0 0 (UInt8.ofNat byte :: rest) = decodeFrom missing code least greatest rest := by
  have value : (UInt8.ofNat byte).toNat = byte := Nat.mod_eq_of_lt small
  rw [decodeFrom]
  simp only [value]
  rw [if_neg (by omega), if_neg (by omega), if_neg (by omega), lead]
  rfl

theorem leadByte?_two (high : Nat) (least : 2 ≤ high) (most : high < 32) :
    leadByte? (high + 0xC0) = some (1, high, 0x80, 0xBF) := by
  rw [leadByte?, if_pos (by omega), Nat.add_sub_cancel]

/-- The first two of three bytes. A number of fewer bytes and the numbers that are no characters
    are told by the second one. -/
theorem leadByte?_three (high next : Nat) (small : high < 16) (follows : next < 64)
    (long : high = 0 → 32 ≤ next) (char : high = 13 → next < 32) :
    ∃ least greatest, leadByte? (high + 0xE0) = some (2, high, least, greatest) ∧
      least ≤ next + 0x80 ∧ next + 0x80 ≤ greatest := by
  rw [leadByte?, if_neg (by omega)]
  by_cases first : high = 0
  · exact ⟨0xA0, 0xBF, by rw [first, if_pos rfl], by omega, by omega⟩
  rw [if_neg (by omega)]
  by_cases last : high = 13
  · exact ⟨0x80, 0x9F, by rw [last, if_pos rfl], by omega, by omega⟩
  · refine ⟨0x80, 0xBF, ?_, by omega, by omega⟩
    rw [if_neg (by omega), if_pos (by omega), Nat.add_sub_cancel]

/-- The first two of four bytes. -/
theorem leadByte?_four (high next : Nat) (small : high < 5) (follows : next < 64)
    (long : high = 0 → 16 ≤ next) (char : high = 4 → next < 16) :
    ∃ least greatest, leadByte? (high + 0xF0) = some (3, high, least, greatest) ∧
      least ≤ next + 0x80 ∧ next + 0x80 ≤ greatest := by
  rw [leadByte?, if_neg (by omega), if_neg (by omega), if_neg (by omega), if_neg (by omega)]
  by_cases first : high = 0
  · exact ⟨0x90, 0xBF, by rw [first, if_pos rfl], by omega, by omega⟩
  rw [if_neg (by omega)]
  by_cases last : high = 4
  · exact ⟨0x80, 0x8F, by rw [last, if_neg (by omega), if_pos rfl], by omega, by omega⟩
  · refine ⟨0x80, 0xBF, ?_, by omega, by omega⟩
    rw [if_pos (by omega), Nat.add_sub_cancel]

/-- A character is decoded before what follows. -/
theorem decodeFrom_utf8EncodeChar (c : Char) (rest : List UInt8) :
    decodeFrom 0 0 0 0 (String.utf8EncodeChar c ++ rest) = c :: decodeFrom 0 0 0 0 rest := by
  obtain ⟨v, same⟩ : ∃ v, v = c.val.toNat := ⟨_, rfl⟩
  have char : c = Char.ofNat v := same ▸ (Char.ofNat_toNat c).symm
  have valid : v < 0xD800 ∨ 0xDFFF < v ∧ v < 0x110000 := same ▸ c.valid
  rw [String.utf8EncodeChar, ← same, char]
  split
  · next one =>
    rw [List.singleton_append, decodeFrom_ascii (by omega)]
  split
  · next two =>
    have lead := leadByte?_two (v / 64 % 32) (by omega) (by omega)
    rw [List.cons_append, List.singleton_append, decodeFrom_lead (by omega) (by omega) lead,
      decodeFrom_last (by omega) (by omega) (by omega)]
    have sum : v / 64 % 32 * 64 + (v % 64 + 128) % 64 = v := by omega
    rw [sum]
  split
  · next three =>
    obtain ⟨least, greatest, lead, low, high⟩ := leadByte?_three (v / 4096 % 16) (v / 64 % 64)
      (by omega) (by omega) (by omega) (by omega)
    rw [List.cons_append, List.cons_append, List.singleton_append,
      decodeFrom_lead (by omega) (by omega) lead,
      decodeFrom_next (by omega) low high (by omega),
      decodeFrom_last (by omega) (by omega) (by omega)]
    have sum : (v / 4096 % 16 * 64 + (v / 64 % 64 + 128) % 64) * 64 + (v % 64 + 128) % 64 = v := by
      omega
    rw [sum]
  · next four =>
    obtain ⟨least, greatest, lead, low, high⟩ := leadByte?_four (v / 262144 % 8) (v / 4096 % 64)
      (by omega) (by omega) (by omega) (by omega)
    rw [List.cons_append, List.cons_append, List.cons_append, List.singleton_append,
      decodeFrom_lead (by omega) (by omega) lead,
      decodeFrom_next (by omega) low high (by omega),
      decodeFrom_next (by omega) (by omega) (by omega) (by omega),
      decodeFrom_last (by omega) (by omega) (by omega)]
    have sum : ((v / 262144 % 8 * 64 + (v / 4096 % 64 + 128) % 64) * 64 +
        (v / 64 % 64 + 128) % 64) * 64 + (v % 64 + 128) % 64 = v := by omega
    rw [sum]

theorem toList_toUTF8 (text : String) :
    text.toUTF8.toList = text.toList.flatMap String.utf8EncodeChar := by
  have encoded : text.toByteArray = text.toList.utf8Encode := by
    conv_lhs => rw [← String.ofList_toList (s := text), String.toByteArray_ofList]
  rw [toList_eq, String.toUTF8_eq_toByteArray, encoded, List.utf8Encode,
    List.toList_data_toByteArray]

/-- The bytes of a text of ASCII are those of ASCII. -/
theorem lt_of_mem_toUTF8 {text : List Char} (ascii : ∀ c ∈ text, c.toNat < 0x80) :
    ∀ byte ∈ (String.ofList text).toUTF8.toList, byte < 0x80 := by
  rw [toList_toUTF8, String.toList_ofList]
  intro byte mem
  obtain ⟨c, listed, mem⟩ := List.mem_flatMap.mp mem
  have small : c.val.toNat < 0x80 := ascii c listed
  rw [String.utf8EncodeChar, if_pos (Nat.le_of_lt_succ small), List.mem_singleton] at mem
  have value : (UInt8.ofNat c.val.toNat).toNat = c.val.toNat := Nat.mod_eq_of_lt (by omega)
  rw [mem, UInt8.lt_iff_toNat_lt, value]
  exact small

/-- Encoded text is decoded as it was. -/
theorem decodeLossy_toUTF8 (text : String) : decodeLossy text.toUTF8 = text.toList := by
  rw [decodeLossy, toList_toUTF8]
  induction text.toList with
  | nil => rfl
  | cons c rest ih => rw [List.flatMap_cons, decodeFrom_utf8EncodeChar, ih]

end Stencil.Text
