import Stencil.Package.Document
import Stencil.Proofs.Zip.Names

/-! # Opened documents

A document that was opened has the parts of its entries, in their order, and nothing of it is
modified. A document is packed whenever no two of its entries have the same name, and one that was
just opened is packed as it was.

Main statements: `Document.read_eq_ok_iff`, `Document.pack_of_nodup`.
-/

namespace Stencil

theorem Zip.Entry.isReadable_of_unpack {entry : Zip.Entry} {limit : Nat} {bytes : ByteArray}
    (unpacked : entry.unpack limit = .ok bytes) : entry.isReadable = .ok () := by
  unfold Zip.Entry.unpack at unpacked
  cases readable : entry.isReadable with
  | error error =>
      rw [readable] at unpacked
      cases unpacked
  | ok => rfl

theorem PartContent.bytes_ofBytes (name : String) (bytes : ByteArray) :
    (ofBytes name bytes).bytes = bytes := by
  rw [ofBytes]
  split
  · split
    · next text decoded =>
      rw [String.fromUTF8?] at decoded
      split at decoded
      · cases decoded
        rw [PartContent.bytes, String.ofList_toList]
        rfl
      · cases decoded
    · rfl
  · rfl

/-- Markup is read from its bytes where the name is that of markup. -/
theorem PartContent.ofBytes_markup {name : String} (named : PartName.isMarkup name = true)
    (text : Markup) : ofBytes name (markup text).bytes = markup text := by
  have valid : (String.ofList text).toUTF8.IsValidUTF8 := (String.ofList text).isValidUTF8
  have decoded : String.fromUTF8? (markup text).bytes = some (String.ofList text) := by
    rw [String.fromUTF8?, bytes, dif_pos valid]
    rfl
  rw [ofBytes, if_pos named, decoded]
  exact congrArg markup String.toList_ofList

theorem PartContent.ofBytes_binary {name : String} (named : PartName.isMarkup name = false)
    (bytes : ByteArray) : ofBytes name bytes = binary bytes := by
  rw [ofBytes, named, if_neg Bool.false_ne_true]

/-- What an entry of a container is opened as. -/
inductive Part.OpenedAs (entry : Zip.Entry) : Option Part → Prop where
  | folder (readable : entry.isReadable = .ok ()) (folder : PartName.isFolder entry.name = true) :
      OpenedAs entry none
  | part (file : PartName.isFolder entry.name = false) (declared : entry.size ≤ greatestSize)
      {bytes : ByteArray} (unpacked : entry.unpack greatestSize = .ok bytes) :
      OpenedAs entry (some
        { name := entry.name, content := PartContent.ofBytes entry.name bytes
          original := true, modified := false })

theorem Part.ofEntry_eq_ok_iff {entry : Zip.Entry} {part : Option Part} :
    ofEntry entry = .ok part ↔ OpenedAs entry part := by
  constructor
  · intro h
    unfold ofEntry at h
    split at h
    · cases h
    · next readable =>
      split at h
      · next folder =>
        cases h
        exact .folder readable folder
      · next file =>
        split at h
        · cases h
        · next declared =>
          split at h
          · cases h
          · cases h
          · next unpacked =>
            cases h
            exact .part (Bool.eq_false_iff.mpr file) (Nat.le_of_not_lt declared) unpacked
  · rintro (⟨readable, folder⟩ | ⟨file, declared, unpacked⟩)
    · rw [ofEntry, readable]
      exact if_pos folder
    · rw [ofEntry, Zip.Entry.isReadable_of_unpack unpacked]
      simp only [file, Bool.false_eq_true, if_false, Nat.not_lt.mpr declared, unpacked]

theorem Part.OpenedAs.isReadable {entry : Zip.Entry} {part : Option Part} (h : OpenedAs entry part) :
    entry.isReadable = .ok () := by
  cases h with
  | folder readable => exact readable
  | part _ _ unpacked => exact Zip.Entry.isReadable_of_unpack unpacked

theorem Part.OpenedAs.name_eq {entry : Zip.Entry} {part : Part} (h : OpenedAs entry (some part)) :
    part.name = entry.name := by
  cases h
  rfl

namespace Document

/-- The parts that entries are opened as, one for each entry that is no folder. -/
inductive Opens : List Zip.Entry → List Part → Prop where
  | nil : Opens [] []
  | folder {entry : Zip.Entry} {entries : List Zip.Entry} {parts : List Part}
      (first : Part.OpenedAs entry none) (later : Opens entries parts) :
      Opens (entry :: entries) parts
  | part {entry : Zip.Entry} {entries : List Zip.Entry} {part : Part} {parts : List Part}
      (first : Part.OpenedAs entry (some part)) (later : Opens entries parts) :
      Opens (entry :: entries) (part :: parts)

theorem opens_cons_iff {entry : Zip.Entry} {entries : List Zip.Entry} {parts : List Part} :
    Opens (entry :: entries) parts ↔
      ∃ first later, Part.OpenedAs entry first ∧ Opens entries later ∧
        parts = first.toList ++ later := by
  constructor
  · intro h
    cases h with
    | folder first later => exact ⟨none, _, first, later, rfl⟩
    | part first later => exact ⟨some _, _, first, later, rfl⟩
  · rintro ⟨_ | part, parts, first, later, rfl⟩
    · exact .folder first later
    · exact .part first later

theorem opens_iff {entries : List Zip.Entry} {parts : List Part} :
    Opens entries parts ↔
      (entries.mapM Part.ofEntry).map (fun opened => opened.filterMap id) = .ok parts := by
  induction entries generalizing parts with
  | nil => exact ⟨fun h => (by cases h; rfl), fun h => (by cases h; exact .nil)⟩
  | cons entry rest ih =>
      simp only [opens_cons_iff, ← Part.ofEntry_eq_ok_iff, ih, List.mapM_cons]
      cases Part.ofEntry entry with
      | error error => exact ⟨fun ⟨_, _, h, _⟩ => (by cases h), fun h => (by cases h)⟩
      | ok first =>
          cases rest.mapM Part.ofEntry with
          | error error => exact ⟨fun ⟨_, _, _, h, _⟩ => (by cases h), fun h => (by cases h)⟩
          | ok later =>
              cases first <;>
                simp [Except.map, bind, Except.bind, pure, Except.pure, eq_comm]

/-- The bytes of a container are opened as the document with its entries and their parts. -/
theorem read_eq_ok_iff {source : ByteArray} {document : Document} :
    Document.read source = .ok document ↔ document.source = source ∧
      Zip.read source = .ok document.entries ∧ Opens document.entries document.parts := by
  unfold Document.read
  cases found : Zip.read source with
  | error error => exact ⟨fun h => (by cases h), fun ⟨_, h, _⟩ => (by cases h)⟩
  | ok entries =>
      obtain ⟨source', entries', parts⟩ := document
      simp only [opens_iff]
      cases opened : entries.mapM Part.ofEntry with
      | error error =>
          refine ⟨fun h => (by cases h), fun ⟨_, h, listed⟩ => ?_⟩
          cases h
          rw [opened] at listed
          cases listed
      | ok opened' =>
          constructor
          · intro h
            cases h
            exact ⟨rfl, rfl, by rw [opened]; rfl⟩
          · rintro ⟨rfl, h, listed⟩
            cases h
            rw [opened] at listed
            cases listed
            rfl

/-- A part that was opened is original and not modified, and its name is not that of a folder. -/
theorem Opens.of_mem {entries : List Zip.Entry} {parts : List Part} (h : Opens entries parts)
    {part : Part} (mem : part ∈ parts) :
    part.original = true ∧ part.modified = false ∧ PartName.isFolder part.name = false := by
  induction h with
  | nil => cases mem
  | folder _ _ ih => exact ih mem
  | part first _ ih =>
      rcases List.mem_cons.mp mem with rfl | later
      · cases first with
        | part file => exact ⟨rfl, rfl, file⟩
      · exact ih later

variable {entries : List Zip.Entry} {parts : List Part}

theorem Opens.append {more : List Zip.Entry} {moreParts : List Part} (h : Opens entries parts)
    (later : Opens more moreParts) : Opens (entries ++ more) (parts ++ moreParts) := by
  induction h with
  | nil => exact later
  | folder first _ ih => exact .folder first ih
  | part first _ ih => exact .part first ih

theorem Opens.isReadable (h : Opens entries parts) :
    ∀ entry ∈ entries, entry.isReadable = .ok () := by
  induction h with
  | nil => simp
  | folder first _ ih => exact List.forall_mem_cons.mpr ⟨first.isReadable, ih⟩
  | part first _ ih => exact List.forall_mem_cons.mpr ⟨first.isReadable, ih⟩

/-- An entry that is no folder has a part. -/
theorem Opens.isFolder_or_mem (h : Opens entries parts) {entry : Zip.Entry} (mem : entry ∈ entries) :
    PartName.isFolder entry.name = true ∨ entry.name ∈ parts.map Part.name := by
  induction h with
  | nil => cases mem
  | folder first _ ih =>
      rcases List.mem_cons.mp mem with rfl | later
      · cases first with
        | folder _ folder => exact .inl folder
      · exact ih later
  | part first _ ih =>
      rcases List.mem_cons.mp mem with rfl | later
      · exact .inr (List.mem_cons.mpr (.inl first.name_eq.symm))
      · exact (ih later).imp_right (List.mem_cons_of_mem _)

theorem Opens.sublist (h : Opens entries parts) :
    (parts.map Part.name).Sublist (entries.map Zip.Entry.name) := by
  induction h with
  | nil => exact .slnil
  | folder _ _ ih => exact ih.cons _
  | part first _ ih =>
      rw [List.map_cons, List.map_cons, first.name_eq]
      exact ih.cons_cons _

theorem pack_of_nodup {document : Document}
    (distinct : (document.repackedEntries.map Zip.Entry.name).Nodup) :
    ∃ bytes, document.pack = .ok bytes := by
  rw [pack, Zip.write_eq_ok.mpr ⟨distinct, rfl⟩]
  split
  · exact ⟨_, rfl⟩
  · exact ⟨_, rfl⟩

/-- A document that was just opened is packed as the bytes it was read from. -/
theorem pack_of_read {source : ByteArray} {document : Document}
    (opened : Document.read source = .ok document) : document.pack = .ok source := by
  obtain ⟨same, -, parts⟩ := read_eq_ok_iff.mp opened
  have unmodified : document.isModified = false :=
    List.any_eq_false.mpr fun part mem => Bool.eq_false_iff.mp (parts.of_mem mem).2.1
  rw [pack, unmodified, if_neg Bool.false_ne_true, same]

end Document

end Stencil
