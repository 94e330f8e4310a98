import Mathlib.Data.String.Basic
import Stencil.Proofs.Package.Edits
import Stencil.Proofs.Package.Reading
import Stencil.Proofs.Zip.Container
import Stencil.Proofs.Zip.Entry

/-! # Packing edited documents

A document that was opened, edited in any way and packed is opened again with the parts it had:
the entries of its container are in their places, untouched ones as they were, and the added parts
stand behind them.

Main statements: `Extends.read_reopened`, `repack_loses_nothing`.
-/

namespace Stencil

namespace Part

/-- The part as it is opened again. -/
def reopened (part : Part) : Part :=
  { name := part.name, content := PartContent.ofBytes part.name part.content.bytes
    original := true, modified := false }

theorem OpenedAs.reopened_eq {entry : Zip.Entry} {part : Part} (h : OpenedAs entry (some part)) :
    part.reopened = part := by
  cases h
  rw [reopened, PartContent.bytes_ofBytes]

theorem openedAs_toEntry {part : Part} (file : PartName.isFolder part.name = false)
    (small : part.content.bytes.size ≤ greatestSize) : OpenedAs part.toEntry (some part.reopened) :=
  .part file small (Zip.Entry.unpack_create (.inr rfl) small)

end Part

namespace Document

/-- A part that is opened again after it was packed. -/
structure Reopens (part : Part) : Prop where
  file : PartName.isFolder part.name = false
  small : part.modified = true → part.content.bytes.size ≤ Part.greatestSize

theorem opens_map_toEntry {parts : List Part}
    (fit : ∀ part ∈ parts, PartName.isFolder part.name = false ∧
      part.content.bytes.size ≤ Part.greatestSize) :
    Opens (parts.map Part.toEntry) (parts.map Part.reopened) := by
  induction parts with
  | nil => exact .nil
  | cons part rest ih =>
      rw [List.forall_mem_cons] at fit
      exact .part (Part.openedAs_toEntry fit.1.1 fit.1.2) (ih fit.2)

section Repacking

variable {document : Document} {entry : Zip.Entry}

theorem repackEntry_of_part? {part : Part} (found : document.part? entry.name = some part) :
    document.repackEntry entry = if part.modified then part.toEntry else entry := by
  rw [repackEntry, found]

theorem repackEntry_of_none (absent : document.part? entry.name = none) :
    document.repackEntry entry = entry := by
  rw [repackEntry, absent]

theorem name_repackEntry (document : Document) (entry : Zip.Entry) :
    (document.repackEntry entry).name = entry.name := by
  cases found : document.part? entry.name with
  | none => rw [repackEntry_of_none found]
  | some part =>
      rw [repackEntry_of_part? found]
      split
      · exact name_of_part? found
      · rfl

/-- The entries that parts were opened from, with some of the parts changed, are packed as entries
    that are opened as the changed parts. -/
theorem Opens.map_repackEntry {changing : String → Prop} {entries : List Zip.Entry}
    {parts kept : List Part} (opens : Opens entries parts)
    (keeps : List.Forall₂ (Part.Keeps changing) parts kept)
    (found : ∀ part ∈ kept, document.part? part.name = some part)
    (fit : ∀ part ∈ document.parts, Reopens part) :
    Opens (entries.map document.repackEntry) (kept.map Part.reopened) := by
  induction opens generalizing kept with
  | nil =>
      cases keeps
      exact .nil
  | @folder entry _ _ first _ ih =>
      have absent : document.part? entry.name = none := by
        cases first with
        | folder _ folder =>
          refine List.find?_eq_none.mpr fun part mem same => ?_
          have file := (fit part mem).file
          rw [of_decide_eq_true same, folder] at file
          cases file
      rw [List.map_cons, repackEntry_of_none absent]
      exact .folder first (ih keeps found)
  | @part entry _ old _ first _ ih =>
      cases keeps with
      | @cons _ new _ rest keep later =>
        rw [List.forall_mem_cons] at found
        have here : document.part? entry.name = some new := by
          rw [← first.name_eq, ← keep.name]
          exact found.1
        refine .part ?_ (ih later found.2)
        rw [repackEntry_of_part? here]
        split
        · next modified =>
          have fits := fit new (List.mem_of_find?_eq_some here)
          exact Part.openedAs_toEntry fits.file (fits.small modified)
        · next unmodified =>
          have same : new = old := keep.content.resolve_right fun changed => unmodified changed.2
          rw [same, first.reopened_eq]
          exact first

theorem repackEntry_cases (document : Document) (entry : Zip.Entry) :
    document.repackEntry entry = entry ∨ ∃ part ∈ document.parts, part.modified = true ∧
      part.name = entry.name ∧ document.repackEntry entry = part.toEntry := by
  cases found : document.part? entry.name with
  | none => exact .inl (repackEntry_of_none found)
  | some part =>
      rw [repackEntry_of_part? found]
      split
      · next modified =>
        exact .inr ⟨part, List.mem_of_find?_eq_some found, modified, name_of_part? found, rfl⟩
      · exact .inl rfl

/-- The entries of an extended document are packed in their places, then the added parts. -/
theorem Extends.repackedEntries_eq {before after : Document} {changing : String → Prop}
    {added : List Part} (h : before.Extends changing added after)
    (original : ∀ part ∈ before.parts, part.original = true) :
    after.repackedEntries = before.entries.map after.repackEntry ++ added.map Part.toEntry := by
  obtain ⟨kept, parts, keeps⟩ := h.parts
  have none : kept.filter (fun part => !part.original) = [] :=
    List.filter_eq_nil_iff.mpr fun part mem => by simp [original_of_keeps keeps original part mem]
  have all : added.filter (fun part => !part.original) = added :=
    List.filter_eq_self.mpr fun part mem => by simp [(h.new part mem).2.1]
  rw [repackedEntries, h.entries, parts, List.filter_append, none, all, List.nil_append]

end Repacking

end Document

/-- No content has more bytes than this: a character has four at most. -/
def PartContent.room : PartContent → Nat
  | markup text => 4 * text.length
  | binary bytes => bytes.size

theorem PartContent.size_bytes_le_room (content : PartContent) : content.bytes.size ≤ content.room := by
  cases content with
  | binary bytes => exact Nat.le_refl _
  | markup text =>
      change (String.ofList text).utf8ByteSize ≤ 4 * text.length
      rw [String.utf8ByteSize_ofList]
      induction text with
      | nil => exact Nat.le_refl _
      | cons c rest ih =>
          have wide := c.utf8Size_le_four
          rw [String.utf8Len_cons, List.length_cons]
          omega

/-- What a part of the greatest size may be packed as. -/
def Part.greatestPackedSize : Nat :=
  6 * greatestSize + 5

theorem Part.size_packed_toEntry_le {part : Part} (small : part.content.bytes.size ≤ greatestSize) :
    part.toEntry.packed.size ≤ greatestPackedSize :=
  Nat.le_trans (Zip.Entry.size_packed_create_le (.inr rfl) part.name part.content.bytes)
    (Nat.add_le_add_right (Nat.mul_le_mul_left 6 small) 5)

/-- Few entries fit a container. -/
theorem size_finish_lt {entries : List Zip.Entry}
    (light : ∀ entry ∈ entries, entry.packed.size ≤ Part.greatestPackedSize)
    (named : ∀ entry ∈ entries, entry.name.utf8ByteSize < 2 ^ 16)
    (few : entries.length ≤ 2 ^ 16) :
    (entries.foldl Zip.Draft.add Zip.Draft.empty).finish.size < 2 ^ 64 := by
  calc (entries.foldl Zip.Draft.add Zip.Draft.empty).finish.size
    _ ≤ entries.length * (Part.greatestPackedSize + 2 ^ 18) + 2 ^ 18 := Zip.size_finish_le light named
    _ ≤ 2 ^ 16 * (Part.greatestPackedSize + 2 ^ 18) + 2 ^ 18 :=
      Nat.add_le_add_right (Nat.mul_le_mul_right _ few) _
    _ < 2 ^ 64 := by decide

namespace Document

/-- When a document that was packed can be opened again: no part that is packed anew is larger than is
    accepted, and the format of containers can hold the entries. -/
structure FitsContainer (document : Document) (bytes : ByteArray) : Prop where
  small : ∀ part ∈ document.parts, part.modified = true →
    part.content.bytes.size ≤ Part.greatestSize
  /-- The container has a field of 16 bits for the length of a name. -/
  named : ∀ entry ∈ document.repackedEntries, entry.name.utf8ByteSize < 2 ^ 16
  /-- No entry ends before its declared size, so that it can be copied as it is. -/
  whole : ∀ entry ∈ document.entries, entry.packed.size = entry.packedSize
  /-- The container has fields of 64 bits for offsets. -/
  size : bytes.size < 2 ^ 64

/-- Whether a modified document has few entries, and parts without much in them, told before it is
    packed. -/
structure IsLight (document : Document) : Prop where
  modified : document.isModified = true
  small : ∀ part ∈ document.parts, part.content.room ≤ Part.greatestSize
  named : ∀ entry ∈ document.repackedEntries, entry.name.utf8ByteSize < 2 ^ 16
  few : document.repackedEntries.length ≤ 2 ^ 16

instance (document : Document) : Decidable document.IsLight :=
  decidable_of_iff
    (document.isModified = true ∧ (∀ part ∈ document.parts, part.content.room ≤ Part.greatestSize) ∧
      (∀ entry ∈ document.repackedEntries, entry.name.utf8ByteSize < 2 ^ 16) ∧
      document.repackedEntries.length ≤ 2 ^ 16)
    ⟨fun ⟨modified, small, named, few⟩ => ⟨modified, small, named, few⟩,
      fun ⟨modified, small, named, few⟩ => ⟨modified, small, named, few⟩⟩

/-- Whether every entry ends where it is declared to, and is no larger than that of a part may be. -/
def HasWholeEntries (document : Document) : Prop :=
  ∀ entry ∈ document.entries,
    entry.packed.size = entry.packedSize ∧ entry.packed.size ≤ Part.greatestPackedSize

/-- A light document fits its container. -/
theorem IsLight.fitsContainer {document : Document} {bytes : ByteArray} (h : document.IsLight)
    (whole : document.HasWholeEntries) (packed : document.pack = .ok bytes) :
    document.FitsContainer bytes := by
  have small (part : Part) (mem : part ∈ document.parts) :
      part.content.bytes.size ≤ Part.greatestSize :=
    Nat.le_trans part.content.size_bytes_le_room (h.small part mem)
  have each : ∀ entry ∈ document.repackedEntries, entry.packed.size ≤ Part.greatestPackedSize := by
    rw [repackedEntries, List.forall_mem_append, List.forall_mem_map, List.forall_mem_map]
    refine ⟨fun entry mem => ?_, fun part mem =>
      Part.size_packed_toEntry_le (small part (List.mem_filter.mp mem).1)⟩
    rcases repackEntry_cases document entry with same | ⟨part, there, -, -, same⟩
    · rw [same]
      exact (whole entry mem).2
    · rw [same]
      exact Part.size_packed_toEntry_le (small part there)
  rw [pack, if_pos h.modified] at packed
  split at packed
  · next written =>
    cases packed
    refine ⟨fun part mem _ => small part mem, h.named, fun entry mem => (whole entry mem).1, ?_⟩
    exact (Zip.write_eq_ok.mp written).2 ▸ size_finish_lt each h.named h.few
  · cases packed

/-- The document that a packed document is opened as. -/
def reopened (document : Document) (bytes : ByteArray) : Document :=
  { source := bytes, entries := document.repackedEntries
    parts := document.parts.map Part.reopened }

section Opening

variable {source bytes : ByteArray} {document : Document}

theorem nodup_names_of_read (opened : Document.read source = .ok document) :
    document.names.Nodup := by
  obtain ⟨-, listed, opens⟩ := read_eq_ok_iff.mp opened
  exact (Zip.distinct_and_bounded_of_read listed).1.sublist opens.sublist

/-- A document as it is before it is edited: its entries have different names, each that of a folder or
    of a part, and its parts stand in the container. -/
structure Stored (document : Document) : Prop where
  distinct : (document.entries.map Zip.Entry.name).Nodup
  parted : ∀ entry ∈ document.entries,
    PartName.isFolder entry.name = true ∨ entry.name ∈ document.names
  original : ∀ part ∈ document.parts, part.original = true

theorem stored_of_read (opened : Document.read source = .ok document) : document.Stored := by
  obtain ⟨-, listed, opens⟩ := read_eq_ok_iff.mp opened
  exact ⟨(Zip.distinct_and_bounded_of_read listed).1, fun entry mem => opens.isFolder_or_mem mem,
    fun part mem => (opens.of_mem mem).1⟩

/-- What the parts hold does not matter. -/
theorem Stored.of_same {after : Document} (h : document.Stored)
    (entries : after.entries = document.entries) (parts : after.parts.map
      (fun part => (part.name, part.original)) = document.parts.map fun part =>
        (part.name, part.original)) : after.Stored := by
  have names : after.names = document.names := by
    have projected := congrArg (List.map Prod.fst) parts
    rwa [List.map_map, List.map_map] at projected
  refine ⟨entries ▸ h.distinct, entries ▸ names ▸ h.parted, fun part mem => ?_⟩
  have listed : (part.name, part.original) ∈ after.parts.map fun part => (part.name, part.original) :=
    List.mem_map_of_mem mem
  rw [parts] at listed
  obtain ⟨other, there, same⟩ := List.mem_map.mp listed
  rw [← (Prod.mk.inj same).2]
  exact h.original other there

namespace Extends

variable {changing : String → Prop} {added : List Part} {after : Document}

/-- A document with other parts, none of which has the name of a folder, is packed as entries with
    different names. -/
theorem nodup_repackedEntries (h : document.Extends changing added after) (stored : document.Stored)
    (files : ∀ part ∈ added, PartName.isFolder part.name = false) :
    (after.repackedEntries.map Zip.Entry.name).Nodup := by
  have kept : (document.entries.map after.repackEntry).map Zip.Entry.name =
      document.entries.map Zip.Entry.name := by
    rw [List.map_map]
    exact List.map_congr_left fun entry _ => name_repackEntry after entry
  have new : (added.map Part.toEntry).map Zip.Entry.name = added.map Part.name := List.map_map
  rw [h.repackedEntries_eq stored.original, List.map_append, kept, new]
  refine List.nodup_append'.mpr ⟨stored.distinct, h.distinct, ?_⟩
  intro name old add
  obtain ⟨entry, mem, rfl⟩ := List.mem_map.mp old
  obtain ⟨part, listed, same⟩ := List.mem_map.mp add
  -- the entry is a folder, which the added part is not, or it has a part that is not added
  rcases stored.parted entry mem with folder | there
  · rw [← same, files part listed] at folder
    cases folder
  · have absent := (h.new part listed).1
    rw [same, contains_iff.mpr there] at absent
    cases absent

theorem nodup_names (h : document.Extends changing added after)
    (opened : Document.read source = .ok document) : after.names.Nodup := by
  rw [h.names_eq]
  refine List.nodup_append'.mpr ⟨nodup_names_of_read opened, h.distinct, fun name old new => ?_⟩
  obtain ⟨part, mem, rfl⟩ := List.mem_map.mp new
  exact Bool.eq_false_iff.mp (h.new part mem).1 (contains_iff.mpr old)

/-- Every part of a document that fits its container can be opened again. -/
theorem reopens (h : document.Extends changing added after)
    (opened : Document.read source = .ok document)
    (files : ∀ part ∈ added, PartName.isFolder part.name = false)
    (fits : after.FitsContainer bytes) : ∀ part ∈ after.parts, Reopens part := by
  obtain ⟨-, -, opens⟩ := read_eq_ok_iff.mp opened
  intro part mem
  refine ⟨?_, fits.small part mem⟩
  have listed : part.name ∈ after.names := List.mem_map_of_mem mem
  rw [h.names_eq] at listed
  rcases List.mem_append.mp listed with old | new
  · obtain ⟨other, there, same⟩ := List.mem_map.mp old
    exact same ▸ (opens.of_mem there).2.2
  · obtain ⟨other, there, same⟩ := List.mem_map.mp new
    exact same ▸ files other there

/-- A container holds what a document that fits it is packed as. -/
theorem storable_repackedEntries (h : document.Extends changing added after)
    (opened : Document.read source = .ok document) (fits : after.FitsContainer bytes) :
    ∀ entry ∈ after.repackedEntries, entry.Storable := by
  obtain ⟨-, listed, opens⟩ := read_eq_ok_iff.mp opened
  have repacked := h.repackedEntries_eq (stored_of_read opened).original
  have written : ∀ part ∈ after.parts, part.modified = true → part.name.utf8ByteSize < 2 ^ 16 →
      part.toEntry.Storable := by
    intro part mem modified named
    refine Zip.Entry.storable_create (.inr rfl) named ?_
    exact Nat.lt_of_le_of_lt (fits.small part mem modified) (by decide)
  have named := fits.named
  rw [repacked] at named ⊢
  rw [List.forall_mem_append, List.forall_mem_map, List.forall_mem_map] at named ⊢
  refine ⟨fun entry mem => ?_, fun part mem => ?_⟩
  · have name := named.1 entry mem
    rcases repackEntry_cases after entry with same | ⟨part, there, modified, same, eq⟩
    · rw [same] at name ⊢
      exact Zip.Entry.storable_of_isReadable (opens.isReadable entry mem)
        ((Zip.distinct_and_bounded_of_read listed).2 entry mem) name
        (fits.whole entry (h.entries ▸ mem))
    · rw [eq] at name ⊢
      exact written part there modified name
  · obtain ⟨kept, parts, -⟩ := h.parts
    have there : part ∈ after.parts := parts ▸ List.mem_append_right _ mem
    exact written part there (h.new part mem).2.2 (named.2 part mem)

theorem repackedEntries_of_unmodified (h : document.Extends changing added after)
    (opened : Document.read source = .ok document) (unmodified : after.isModified = false) :
    after.repackedEntries = document.entries := by
  obtain ⟨kept, parts, -⟩ := h.parts
  have none : ∀ part ∈ after.parts, ¬ part.modified = true := List.any_eq_false.mp unmodified
  have empty : added = [] := List.eq_nil_iff_forall_not_mem.mpr fun part mem =>
    none part (parts ▸ List.mem_append_right _ mem) (h.new part mem).2.2
  have same : ∀ entry ∈ document.entries, after.repackEntry entry = entry :=
    fun entry _ => (repackEntry_cases after entry).resolve_right
      fun ⟨part, mem, modified, _⟩ => none part mem modified
  rw [h.repackedEntries_eq (stored_of_read opened).original, empty, List.map_nil, List.append_nil,
    List.map_congr_left same, List.map_id']

/-- The entries that are read again are those that were packed, also where nothing was packed since
    nothing is modified. -/
theorem read_of_pack (h : document.Extends changing added after)
    (opened : Document.read source = .ok document) (packed : after.pack = .ok bytes)
    (fits : after.FitsContainer bytes) : Zip.read bytes = .ok after.repackedEntries := by
  rw [pack] at packed
  split at packed
  · split at packed
    · next written =>
      cases packed
      exact Zip.read_of_write written (h.storable_repackedEntries opened fits) fits.size
    · cases packed
  · next unmodified =>
    cases packed
    obtain ⟨rfl, listed, -⟩ := read_eq_ok_iff.mp opened
    rw [h.source, listed, h.repackedEntries_of_unmodified opened (Bool.eq_false_iff.mpr unmodified)]

/-- The entries that a document is packed as are opened as its parts. -/
theorem opens_repackedEntries (h : document.Extends changing added after)
    (opened : Document.read source = .ok document)
    (files : ∀ part ∈ added, PartName.isFolder part.name = false)
    (fits : after.FitsContainer bytes) :
    Opens after.repackedEntries (after.parts.map Part.reopened) := by
  obtain ⟨-, -, opens⟩ := read_eq_ok_iff.mp opened
  obtain ⟨kept, parts, keeps⟩ := h.parts
  have reopens := h.reopens opened files fits
  have first : Opens (document.entries.map after.repackEntry) (kept.map Part.reopened) := by
    refine opens.map_repackEntry keeps (fun part mem => ?_) reopens
    exact part?_of_mem (h.nodup_names opened) (parts ▸ List.mem_append_left _ mem)
  have later : Opens (added.map Part.toEntry) (added.map Part.reopened) :=
    opens_map_toEntry fun part mem => by
      have fits := reopens part (parts ▸ List.mem_append_right _ mem)
      exact ⟨fits.file, fits.small (h.new part mem).2.2⟩
  rw [h.repackedEntries_eq (stored_of_read opened).original, parts, List.map_append]
  exact first.append later

/-- Whatever was set in a document that was opened, what it is packed as is opened again. -/
theorem read_reopened (h : document.Extends changing added after)
    (opened : Document.read source = .ok document)
    (files : ∀ part ∈ added, PartName.isFolder part.name = false)
    (packed : after.pack = .ok bytes) (fits : after.FitsContainer bytes) :
    Document.read bytes = .ok (after.reopened bytes) :=
  read_eq_ok_iff.mpr ⟨rfl, h.read_of_pack opened packed fits,
    h.opens_repackedEntries opened files fits⟩

end Extends

end Opening

/-! ## Documents that are opened again -/

theorem Opens.map_reopened {entries : List Zip.Entry} {parts : List Part} (h : Opens entries parts) :
    parts.map Part.reopened = parts := by
  induction h with
  | nil => rfl
  | folder _ _ ih => exact ih
  | part first _ ih => rw [List.map_cons, first.reopened_eq, ih]

/-- A document that was opened has the parts of the one that was packed, by their names and their
    bytes. -/
structure Reread (packed : Document) (source : ByteArray) (again : Document) : Prop where
  opened : Document.read source = .ok again
  kept : again.parts.map (fun part => (part.name, part.content.bytes)) =
    packed.parts.map fun part => (part.name, part.content.bytes)

theorem map_name_bytes_reopened (parts : List Part) :
    (parts.map Part.reopened).map (fun part => (part.name, part.content.bytes)) =
      parts.map fun part => (part.name, part.content.bytes) := by
  rw [List.map_map]
  exact List.map_congr_left fun part _ => Prod.ext rfl (PartContent.bytes_ofBytes ..)

theorem reread_reopened {document : Document} {bytes : ByteArray}
    (opened : Document.read bytes = .ok (document.reopened bytes)) :
    document.Reread bytes (document.reopened bytes) :=
  ⟨opened, map_name_bytes_reopened document.parts⟩

namespace Reread

variable {packed again : Document} {source : ByteArray} {name : String}

/-- What is opened is told by its names and its bytes. -/
theorem parts_eq (h : Reread packed source again) :
    again.parts = packed.parts.map Part.reopened := by
  have byName (parts : List Part) : parts.map Part.reopened =
      (parts.map fun part => (part.name, part.content.bytes)).map fun named =>
        { name := named.1, content := PartContent.ofBytes named.1 named.2, original := true
          modified := false } := by
    rw [List.map_map]
    rfl
  obtain ⟨-, -, opens⟩ := read_eq_ok_iff.mp h.opened
  rw [← opens.map_reopened, byName, h.kept, ← byName]

theorem names_eq (h : Reread packed source again) : again.names = packed.names := by
  rw [names, h.parts_eq, List.map_map]
  rfl

theorem contains_eq (h : Reread packed source again) (name : String) :
    again.contains name = packed.contains name :=
  contains_eq_of_names h.names_eq name

theorem templateNames_eq (h : Reread packed source again) :
    again.templateNames = packed.templateNames := by
  rw [templateNames, templateNames, h.names_eq]

/-- The bytes of every part are read back. -/
theorem content?_eq (h : Reread packed source again) (name : String) :
    again.content? name =
      (packed.content? name).map fun content => PartContent.ofBytes name content.bytes := by
  rw [content?, part?, h.parts_eq, List.find?_map, Option.map_map, content?, Option.map_map]
  refine Option.map_congr fun part found => ?_
  rw [Function.comp_apply, Part.reopened, name_of_part? (Option.mem_def.mp found)]
  rfl

theorem markup?_eq (h : Reread packed source again) (named : PartName.isMarkup name = true)
    {text : Markup} (there : packed.markup? name = some text) : again.markup? name = some text := by
  obtain ⟨content, found, isMarkup⟩ := Option.bind_eq_some_iff.mp there
  have same : content = .markup text := by
    cases content with
    | markup => exact congrArg PartContent.markup (Option.some.inj isMarkup)
    | binary => cases isMarkup
  rw [markup?, h.content?_eq, found, same, Option.map_some, PartContent.ofBytes_markup named]
  rfl

theorem binary_eq (h : Reread packed source again) (named : PartName.isMarkup name = false)
    {bytes : ByteArray} (there : packed.content? name = some (.binary bytes)) :
    again.content? name = some (.binary bytes) := by
  rw [h.content?_eq, there, Option.map_some, PartContent.ofBytes_binary named]
  rfl

end Reread

/-- When an edited document that was packed can be opened again: `files` and `small` are about the
    edits; `named`, `whole` and `size` say that the format of containers can hold the entries. -/
structure Repackable (document : Document) (edits : List Edit) (bytes : ByteArray) : Prop where
  /-- No added part has the name of a folder. -/
  files : ∀ name ∈ document.addedNames edits, PartName.isFolder name = false
  /-- No content is larger than is accepted of a part. -/
  small : ∀ edit ∈ edits, edit.content.bytes.size ≤ Part.greatestSize
  /-- The container has a field of 16 bits for the length of a name. -/
  named : ∀ name ∈ document.entries.map Zip.Entry.name ++ document.addedNames edits,
    name.utf8ByteSize < 2 ^ 16
  /-- No entry ends before its declared size, so that it can be copied as it is. -/
  whole : ∀ entry ∈ document.entries, entry.packed.size = entry.packedSize
  /-- The container has fields of 64 bits for offsets. -/
  size : bytes.size < 2 ^ 64

/-- A document that was edited, packed and opened again, beside the one it began as. -/
structure Repacked (document : Document) (edits : List Edit) (reopened : Document) : Prop where
  /-- There are the parts of the edited document, in their order and with their bytes. -/
  parts : reopened.parts.map (fun part => (part.name, part.content.bytes)) =
    (document.edit edits).parts.map fun part => (part.name, part.content.bytes)
  distinct : reopened.names.Nodup
  /-- A part has the bytes it was last set to. -/
  contents : ∀ name, reopened.bytes? name =
    (((edits.reverse.find? fun edit => edit.name = name).map Edit.content).or
      (document.content? name)).map PartContent.bytes
  /-- There are the entries of the container, folders included, then the added parts. -/
  listed : reopened.entries.map Zip.Entry.name =
    document.entries.map Zip.Entry.name ++ document.addedNames edits
  /-- An entry whose part is not modified is the same entry in the same place. -/
  kept : ∀ (index : Nat) (entry : Zip.Entry), document.entries[index]? = some entry →
    document.Untouched edits entry.name → reopened.entries[index]? = some entry

section Editing

variable {source bytes : ByteArray} {document : Document} {edits : List Edit}

/-- An edited document is packed as the entries of its container in their places, then the added
    parts. -/
theorem exists_repackedEntries_eq (opened : Document.read source = .ok document)
    (edits : List Edit) :
    ∃ added, document.Extends (fun name => ¬ document.Untouched edits name) added
        (document.edit edits) ∧
      added.map Part.name = document.addedNames edits ∧
      (document.edit edits).repackedEntries =
        document.entries.map (document.edit edits).repackEntry ++ added.map Part.toEntry := by
  obtain ⟨added, frame, names⟩ := document.exists_extends_edit edits
  exact ⟨added, frame, names, frame.repackedEntries_eq (stored_of_read opened).original⟩

theorem map_name_repackedEntries_edit (opened : Document.read source = .ok document)
    (edits : List Edit) :
    (document.edit edits).repackedEntries.map Zip.Entry.name =
      document.entries.map Zip.Entry.name ++ document.addedNames edits := by
  obtain ⟨added, -, names, packed⟩ := exists_repackedEntries_eq opened edits
  have kept : (document.entries.map (document.edit edits).repackEntry).map Zip.Entry.name =
      document.entries.map Zip.Entry.name := by
    rw [List.map_map]
    exact List.map_congr_left fun entry _ => name_repackEntry _ entry
  have new : (added.map Part.toEntry).map Zip.Entry.name = document.addedNames edits := by
    rw [List.map_map, ← names]
    rfl
  rw [packed, List.map_append, kept, new]

theorem Repackable.fitsContainer (fits : document.Repackable edits bytes)
    (opened : Document.read source = .ok document) :
    (document.edit edits).FitsContainer bytes := by
  obtain ⟨-, -, opens⟩ := read_eq_ok_iff.mp opened
  obtain ⟨_, frame, -⟩ := document.exists_extends_edit edits
  constructor
  case small =>
    intro part mem modified
    rcases document.forall_mem_parts_edit edits part mem with old | ⟨edit, listed, -, content⟩
    · exact absurd modified (Bool.eq_false_iff.mp (opens.of_mem old).2.1)
    · exact content ▸ fits.small edit listed
  case named =>
    have named := fits.named
    rw [← map_name_repackedEntries_edit opened] at named
    exact fun entry mem => named entry.name (List.mem_map_of_mem mem)
  case whole => exact frame.entries ▸ fits.whole
  case size => exact fits.size

/-- An edited document that was packed is opened again. -/
theorem read_reopened_edit (opened : Document.read source = .ok document)
    (packed : (document.edit edits).pack = .ok bytes) (fits : document.Repackable edits bytes) :
    Document.read bytes = .ok ((document.edit edits).reopened bytes) := by
  obtain ⟨added, frame, names⟩ := document.exists_extends_edit edits
  refine frame.read_reopened opened (fun part mem => fits.files _ ?_) packed
    (fits.fitsContainer opened)
  exact names ▸ List.mem_map_of_mem mem

/-- An entry that no edit changes is packed as it is. -/
theorem repackEntry_edit_of_untouched (opened : Document.read source = .ok document)
    {entry : Zip.Entry} (untouched : document.Untouched edits entry.name) :
    (document.edit edits).repackEntry entry = entry := by
  obtain ⟨-, -, opens⟩ := read_eq_ok_iff.mp opened
  obtain ⟨added, frame, names⟩ := document.exists_extends_edit edits
  have unadded : entry.name ∉ added.map Part.name := by
    rw [names, mem_addedNames]
    rintro ⟨⟨edit, listed, same⟩, absent⟩
    rw [contains_eq_isSome, untouched edit listed same] at absent
    cases absent
  have same := frame.part?_eq (not_not_intro untouched) unadded
  cases found : document.part? entry.name with
  | none => exact repackEntry_of_none (same.trans found)
  | some part =>
      have unmodified := (opens.of_mem (List.mem_of_find?_eq_some found)).2.1
      rw [repackEntry_of_part? (same.trans found), unmodified, if_neg Bool.false_ne_true]

theorem repacked_of_opened (opened : Document.read source = .ok document) :
    document.Repacked edits ((document.edit edits).reopened bytes) := by
  obtain ⟨_, frame, -, packed⟩ := exists_repackedEntries_eq opened edits
  constructor
  case parts => exact map_name_bytes_reopened _
  case distinct =>
    have same : ((document.edit edits).parts.map Part.reopened).map Part.name =
        (document.edit edits).names := List.map_map
    rw [Document.names, reopened, same]
    exact frame.nodup_names opened
  case contents =>
    intro name
    rw [← content?_edit, bytes?, content?, content?, part?, part?, reopened, List.find?_map,
      Option.map_map, Option.map_map, Option.map_map]
    exact Option.map_congr fun part _ => PartContent.bytes_ofBytes part.name part.content.bytes
  case listed => exact map_name_repackedEntries_edit opened edits
  case kept =>
    intro index entry here untouched
    have mapped : (document.entries.map (document.edit edits).repackEntry)[index]? = some entry := by
      rw [List.getElem?_map, here, Option.map_some, repackEntry_edit_of_untouched opened untouched]
    rw [reopened, packed, List.getElem?_append_left (List.getElem?_eq_some_iff.mp mapped).1, mapped]

end Editing

end Document

/-- Whatever is set in a document that was opened, packing it loses nothing; and where nothing is
    changed it gives the bytes that were opened. -/
theorem repack_loses_nothing {source bytes : ByteArray} {document : Document} {edits : List Edit}
    (opened : Document.read source = .ok document)
    (packed : (document.edit edits).pack = .ok bytes) :
    ((∀ edit ∈ edits, document.content? edit.name = some edit.content) → bytes = source) ∧
      (document.Repackable edits bytes →
        ∃ reopened, Document.read bytes = .ok reopened ∧ document.Repacked edits reopened) := by
  refine ⟨fun same => ?_, fun fits => ?_⟩
  · rw [Document.edit_of_content? same, Document.pack_of_read opened] at packed
    exact (Except.ok.inj packed).symm
  · exact ⟨_, Document.read_reopened_edit opened packed fits, Document.repacked_of_opened opened⟩

/-- A container with a folder and a text. -/
def smallEntries : List Zip.Entry :=
  [Zip.Entry.create "word/" .stored ByteArray.empty,
   Zip.Entry.create PartName.mainDocument .stored "<w:t/>".toUTF8]

/-- The document of the container. -/
def smallDocument : Document where
  source := (smallEntries.foldl Zip.Draft.add Zip.Draft.empty).finish
  entries := smallEntries
  parts :=
    [{ name := PartName.mainDocument
       content := PartContent.ofBytes PartName.mainDocument "<w:t/>".toUTF8
       original := true, modified := false }]

/-- The text is replaced, and one of the two new parts is set twice. -/
def smallEdits : List Edit :=
  [⟨"word/media/b.png", .binary ⟨#[1]⟩⟩, ⟨PartName.mainDocument, .markup "<w:p/>".toList⟩,
   ⟨"word/media/a.png", .binary ⟨#[2]⟩⟩, ⟨"word/media/b.png", .binary ⟨#[3]⟩⟩]

theorem smallEntries_storable : ∀ entry ∈ smallEntries, entry.Storable :=
  List.forall_mem_cons.mpr ⟨Zip.Entry.storable_create (.inl rfl) (by decide) (by decide),
    List.forall_mem_singleton.mpr
      (Zip.Entry.storable_create (.inl rfl) (by decide) (by decide))⟩

theorem read_smallDocument : Document.read smallDocument.source = .ok smallDocument := by
  have written : Zip.write smallEntries = .ok smallDocument.source :=
    Zip.write_eq_ok.mpr ⟨by decide, rfl⟩
  have narrow : smallDocument.source.size < 2 ^ 64 := by decide +kernel
  refine Document.read_eq_ok_iff.mpr
    ⟨rfl, Zip.read_of_write written smallEntries_storable narrow, ?_⟩
  refine .folder (.folder rfl (by decide)) (.part (.part (by decide) (by decide) ?_) .nil)
  exact Zip.Entry.unpack_create (.inl rfl) (by decide)

/-- The small document is packed and opened again: the new parts stand in the order in which they
    were added, with the bytes they were last set to. -/
theorem repack_loses_nothing_small :
    Document.read smallDocument.source = .ok smallDocument ∧
      ∃ bytes reopened, (smallDocument.edit smallEdits).pack = .ok bytes ∧
        Document.read bytes = .ok reopened ∧
        reopened.entries.map Zip.Entry.name =
          ["word/", PartName.mainDocument, "word/media/b.png", "word/media/a.png"] ∧
        reopened.bytes? "word/media/b.png" = some ⟨#[3]⟩ := by
  have distinct :
      ((smallDocument.edit smallEdits).repackedEntries.map Zip.Entry.name).Nodup := by
    decide +kernel
  have small : ((smallDocument.edit smallEdits).repackedEntries.foldl Zip.Draft.add
      Zip.Draft.empty).finish.size < 2 ^ 64 := by decide +kernel
  have modified : (smallDocument.edit smallEdits).isModified = true := by decide +kernel
  have added : smallDocument.addedNames smallEdits = ["word/media/b.png", "word/media/a.png"] := by
    decide +kernel
  have written := Zip.write_eq_ok.mpr ⟨distinct, rfl⟩
  have packed : (smallDocument.edit smallEdits).pack =
      .ok ((smallDocument.edit smallEdits).repackedEntries.foldl Zip.Draft.add
        Zip.Draft.empty).finish := by
    rw [Document.pack, if_pos modified, written]
  obtain ⟨-, reopens⟩ := repack_loses_nothing read_smallDocument packed
  obtain ⟨reopened, read, repacked⟩ := reopens
    { files := by rw [added]; decide
      small := by decide +kernel
      named := by rw [added]; decide
      whole := fun entry mem => (smallEntries_storable entry mem).packed
      size := small }
  refine ⟨read_smallDocument, _, reopened, packed, read, ?_, ?_⟩
  · rw [repacked.listed, added]
    rfl
  · rw [repacked.contents]
    rfl

end Stencil
