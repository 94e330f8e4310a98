import Stencil.Proofs.Package.Repack
import Stencil.Proofs.Report.Frame
import Stencil.Proofs.Report.Reasons

/-! # Packed reports

A template whose parts stand in a container has a lenient report whenever its parts with tags can be
read: what its pictures add has names of its own, so that the filled document can be packed. The
bytes of a report are opened again as the filled document.

Main statements: `exists_report_of_make`, `exists_reread_of_render`.
-/

namespace Stencil

namespace PartName

theorem isFolder_of_getLast? {name : String} {c : Char} (last : name.toList.getLast? = some c)
    (file : c ∉ ['/', '\\']) : isFolder name = false := by
  rw [isFolder, last]
  simpa using file

theorem isFolder_mediaName (format : ImageFormat) (number : Nat) :
    isFolder (Embedding.mediaName format number) = false := by
  obtain ⟨c, mem, last⟩ := Embedding.getLast?_mediaName format number
  have file : ∀ c ∈ ['f', 'g', 'p'], c ∉ ['/', '\\'] :=
    List.all_iff_forall_prop.mp (by decide)
  exact isFolder_of_getLast? last (file c mem)

theorem isFolder_partFor (part : String) : isFolder (Relationships.partFor part) = false :=
  isFolder_of_getLast? (getLast?_partFor part) (by decide)

end PartName

namespace Document.Reread

variable {packed again : Document} {source : ByteArray} {name : String}

theorem template_eq (h : packed.Reread source again) (tagged : PartName.isTemplate name = true)
    {text : Markup} (there : packed.markup? name = some text) : again.markup? name = some text :=
  h.markup?_eq (PartName.isMarkup_of_isTemplate tagged) there

theorem media_eq (h : packed.Reread source again) {format : ImageFormat} {index : Nat}
    (named : name = Embedding.mediaName format index) {picture : ByteArray}
    (stored : packed.content? name = some (.binary picture)) :
    again.content? name = some (.binary picture) :=
  h.binary_eq (named ▸ Embedding.isMarkup_mediaName format index) stored

end Document.Reread

section Rendering

variable {document : Document} {payload : Payload} {options : RenderOptions} {fetch : Fetcher}

/-- A filled document is what was there, with added parts that are no folders. -/
theorem Draft.exists_extends_files {draft : Draft}
    (made : Draft.make document payload options = .ok draft) (fetch : Fetcher) :
    ∃ added, document.Extends (document.MayChange payload fetch) added
        (draft.filled (draft.locators.map fetch)) ∧
      ∀ part ∈ added, PartName.isFolder part.name = false := by
  obtain ⟨placements, lacking, frame, -, named, related⟩ := Draft.exists_extends made fetch
  refine ⟨_, frame, List.forall_mem_append.mpr
    ⟨List.forall_mem_map.mpr fun placement mem => ?_, fun part mem => ?_⟩⟩
  · obtain ⟨number, media⟩ := named placement mem
    change PartName.isFolder placement.media = false
    exact media ▸ PartName.isFolder_mediaName _ number
  · obtain ⟨-, placement, -, home⟩ := (related part.name).mp (List.mem_map_of_mem mem)
    exact home ▸ PartName.isFolder_partFor placement.part

theorem Draft.exists_pack {draft : Draft} (stored : document.Stored)
    (made : Draft.make document payload options = .ok draft) (fetch : Fetcher) :
    ∃ bytes, (draft.filled (draft.locators.map fetch)).pack = .ok bytes := by
  obtain ⟨added, frame, files⟩ := Draft.exists_extends_files made fetch
  exact Document.pack_of_nodup (frame.nodup_repackedEntries stored files)

/-- A lenient render fails only while the template is planned. -/
theorem exists_report_of_make (stored : document.Stored) (lenient : options.strict = false)
    {draft : Draft} (made : Draft.make document payload options = .ok draft) (fetch : Fetcher) :
    ∃ report, render document payload options fetch = .ok report := by
  obtain ⟨bytes, packed⟩ := Draft.exists_pack stored made fetch
  obtain ⟨-, sameOptions, -, -⟩ := Draft.of_make made
  rw [render_eq_complete made, Draft.complete, sameOptions, lenient, Bool.false_and,
    if_neg Bool.false_ne_true]
  rw [Draft.filled] at packed
  simp only [packed]
  exact ⟨_, rfl⟩

/-- What is found of a filled document is found of what its report packs. -/
theorem exists_report_satisfying {p : Document → Bool} (stored : document.Stored)
    (lenient : options.strict = false)
    (found : (filledDocument document payload options fetch).toOption.any p = true) :
    ∃ report output, render document payload options fetch = .ok report ∧
      filledDocument document payload options fetch = .ok output ∧
      output.pack = .ok report.bytes ∧ p output = true := by
  cases filled : filledDocument document payload options fetch with
  | error error =>
      rw [filled] at found
      cases found
  | ok output =>
      obtain ⟨draft, made, -⟩ := filledDocument_eq_ok_iff.mp filled
      obtain ⟨report, rendered⟩ := exists_report_of_make stored lenient made fetch
      obtain ⟨output', -, -, filled', packed, -⟩ := exists_placements_of_render rendered
      rw [filled, Except.ok.injEq] at filled'
      rw [filled] at found
      exact ⟨report, output, rendered, rfl, filled'.symm ▸ packed, found⟩

/-- Whether a report can be opened again: its template was opened, and the container of the report
    holds what is filled. -/
structure Reopenable (document : Document) (payload : Payload) (options : RenderOptions)
    (fetch : Fetcher) (report : Report) : Prop where
  opened : ∃ source, Document.read source = .ok document
  fits : ∀ output, filledDocument document payload options fetch = .ok output →
    output.FitsContainer report.bytes

/-- A report is opened as the document that was filled. -/
theorem exists_reread_of_render {report : Report}
    (rendered : render document payload options fetch = .ok report)
    (reopenable : Reopenable document payload options fetch report) {output : Document}
    (filled : filledDocument document payload options fetch = .ok output) :
    ∃ again, output.Reread report.bytes again := by
  obtain ⟨source, opened⟩ := reopenable.opened
  obtain ⟨draft, made, completed⟩ := exists_draft_of_render rendered
  obtain ⟨packed, -⟩ := Draft.of_complete completed
  obtain ⟨added, frame, files⟩ := Draft.exists_extends_files made fetch
  obtain ⟨_, made', same⟩ := filledDocument_eq_ok_iff.mp filled
  rw [made, Except.ok.injEq] at made'
  subst made' same
  exact ⟨_, Document.reread_reopened
    (frame.read_reopened opened files packed (reopenable.fits _ filled))⟩

/-- A lenient report of an opened template can be opened again if there is not much in it. -/
theorem exists_reopenable_report {source : ByteArray} (opened : Document.read source = .ok document)
    (whole : document.HasWholeEntries) (lenient : options.strict = false)
    (light : (filledDocument document payload options fetch).toOption.any
      (fun output => output.IsLight) = true) :
    ∃ report, render document payload options fetch = .ok report ∧
      Reopenable document payload options fetch report := by
  obtain ⟨report, output, rendered, filled, packed, found⟩ :=
    exists_report_satisfying (Document.stored_of_read opened) lenient light
  refine ⟨report, rendered, ⟨source, opened⟩, fun output' filled' => ?_⟩
  rw [filled, Except.ok.injEq] at filled'
  subst filled'
  obtain ⟨draft, made, rfl⟩ := filledDocument_eq_ok_iff.mp filled
  obtain ⟨added, frame, -⟩ := Draft.exists_extends_files made fetch
  refine (of_decide_eq_true found).fitsContainer (fun entry mem => whole entry ?_) packed
  exact frame.entries ▸ mem

end Rendering

namespace Sample

section Opening

variable {parts : List Part} {text : Markup}

theorem reopened_original {name : String} (named : PartName.isMarkup name = true) (text : Markup) :
    (original name (.markup text)).reopened = original name (.markup text) := by
  rw [Part.reopened, original, PartContent.ofBytes_markup named]

/-- Whether parts may stand in a container that is opened. -/
structure Storable (parts : List Part) : Prop where
  distinct : (parts.map Part.name).Nodup
  fresh : ∀ part ∈ parts, part.reopened = part
  files : ∀ name ∈ parts.map Part.name, PartName.isFolder name = false
  named : ∀ name ∈ parts.map Part.name, name.utf8ByteSize < 2 ^ 16
  small : ∀ part ∈ parts, part.content.room ≤ Part.greatestSize
  few : parts.length ≤ 2 ^ 16

theorem Storable.size_bytes_le (h : Storable parts) :
    ∀ part ∈ parts, part.content.bytes.size ≤ Part.greatestSize := fun part mem =>
  Nat.le_trans part.content.size_bytes_le_room (h.small part mem)

theorem hasWholeEntries_opened (h : Storable parts) : (opened parts).HasWholeEntries :=
  List.forall_mem_map.mpr fun part mem =>
    ⟨rfl, Part.size_packed_toEntry_le (h.size_bytes_le part mem)⟩

theorem read_opened (h : Storable parts) :
    Document.read (opened parts).source = .ok (opened parts) := by
  have names : (parts.map Part.toEntry).map Zip.Entry.name = parts.map Part.name := List.map_map
  have written : Zip.write (parts.map Part.toEntry) = .ok (opened parts).source :=
    Zip.write_eq_ok.mpr ⟨names ▸ h.distinct, rfl⟩
  have storable : ∀ entry ∈ parts.map Part.toEntry, entry.Storable :=
    List.forall_mem_map.mpr fun part mem =>
      Zip.Entry.storable_create (.inr rfl) (List.forall_mem_map.mp h.named part mem)
        (Nat.lt_of_le_of_lt (h.size_bytes_le part mem) (by decide))
  have narrow : (opened parts).source.size < 2 ^ 64 := by
    refine size_finish_lt (fun entry mem => (hasWholeEntries_opened h entry mem).2)
      (List.forall_mem_map.mpr (List.forall_mem_map.mp h.named)) ?_
    rw [List.length_map]
    exact h.few
  refine Document.read_eq_ok_iff.mpr ⟨rfl, Zip.read_of_write written storable narrow, ?_⟩
  have opens := Document.opens_map_toEntry fun part mem =>
    ⟨List.forall_mem_map.mp h.files part mem, h.size_bytes_le part mem⟩
  rwa [List.map_congr_left h.fresh, List.map_id'] at opens

/-- The small template stands in its container with a text that is not too large. -/
theorem storable_template (small : 4 * text.length ≤ Part.greatestSize) :
    Storable [types, original PartName.mainDocument (.markup text), links] where
  distinct := by
    change [PartName.contentTypes, PartName.mainDocument,
      Relationships.partFor PartName.mainDocument].Nodup
    decide
  fresh := by
    simp only [List.forall_mem_cons]
    exact ⟨reopened_original (by decide) _, reopened_original (by decide) _,
      reopened_original (PartName.isMarkup_partFor _) _, List.forall_mem_nil _⟩
  files := by
    change ∀ name ∈ [PartName.contentTypes, PartName.mainDocument,
      Relationships.partFor PartName.mainDocument], PartName.isFolder name = false
    decide +kernel
  named := by
    change ∀ name ∈ [PartName.contentTypes, PartName.mainDocument,
      Relationships.partFor PartName.mainDocument], name.utf8ByteSize < 2 ^ 16
    decide +kernel
  small := by
    simp only [List.forall_mem_cons]
    exact ⟨by decide, small, by decide, List.forall_mem_nil _⟩
  few := Nat.le_of_ble_eq_true rfl

/-- The report of the small template with a text can be opened again if there is not much in it. -/
theorem exists_reopenable_template {payload : Payload} (small : 4 * text.length ≤ Part.greatestSize)
    (light : (filledDocument (template text) payload {} fetch).toOption.any
      (fun output => output.IsLight) = true) :
    ∃ report, render (template text) payload {} fetch = .ok report ∧
      Reopenable (template text) payload {} fetch report :=
  exists_reopenable_report (read_opened (storable_template small))
    (hasWholeEntries_opened (storable_template small)) rfl light

end Opening

theorem stored : document.Stored :=
  Document.stored_of_read (read_opened (storable_template (by decide)))

theorem exists_reopenable : ∃ report, render document payload {} fetch = .ok report ∧
    Reopenable document payload {} fetch report :=
  exists_reopenable_template (by decide) (by decide +kernel)

end Sample

end Stencil
