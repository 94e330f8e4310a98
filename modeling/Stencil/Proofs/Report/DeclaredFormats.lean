import Stencil.Proofs.Package.ContentTypes
import Stencil.Proofs.Report.Packing

/-! # Declared formats of pictures

The formats of all embedded pictures are declared when the report is finished. There is one declaration
for a format however many pictures have it, and none is added where there was one.

Main statement: `render_declares_formats`. The end tag of the root and the declarations that there are
are searched for in one spelling: `render_misses_declarations`.
-/

namespace Stencil

/-- The formats of the pictures of a report, in the order of their tags. -/
def Document.formats (document : Document) (payload : Payload) (fetch : Fetcher) : List ImageFormat :=
  (document.pictures payload fetch).map fun picture => ImageFormat.detect picture.2

section Rendering

variable {document : Document} {payload : Payload} {options : RenderOptions} {fetch : Fetcher}
  {report : Report}

theorem Draft.markup?_filled_contentTypes {draft : Draft}
    (made : Draft.make document payload options = .ok draft) (fetch : Fetcher) :
    (draft.filled (draft.locators.map fetch)).markup? PartName.contentTypes =
      some ((document.formats payload fetch).foldl ContentTypes.ensure draft.contentTypes) := by
  obtain ⟨placements, embedding, course, sound, finished, origins⟩ := Draft.exists_course made fetch
  have formats : placements.map Placement.format = document.formats payload fetch := by
    rw [Document.formats, ← origins, List.map_map]
    rfl
  rw [finished, ← formats]
  by_cases none : embedding.embedded = 0
  · have empty : placements = [] := List.length_eq_zero_iff.mp (sound.counted.symm.trans none)
    obtain ⟨-, types, -⟩ := Draft.make_eq_ok_iff.mp made
    have same := sound.untouched PartName.contentTypes (by decide)
      (by rw [empty]; exact List.not_mem_nil)
    rw [Embedding.finish, if_pos none, empty, List.map_nil, List.foldl_nil, ← types, Document.markup?,
      same]
    rfl
  · rw [Embedding.markup?_finish_contentTypes none, course.contentTypes_eq]
    rfl

/-- Every embedded picture's format is declared once, where the root has an end tag and the declarations
    that there are are found; all of these stay, and none is added beside them. -/
theorem render_declares_formats {types : Markup}
    (rendered : render document payload options fetch = .ok report)
    (found : document.markup? PartName.contentTypes = some types)
    (closed : ContentTypes.rootEnd <:+: types)
    (legible : ∀ format ∈ document.formats payload fetch, ContentTypes.Legible types format) :
    ∃ output media lacking after,
      filledDocument document payload options fetch = .ok output ∧
      output.pack = .ok report.bytes ∧
      Touched document payload fetch report output media lacking ∧
      output.markup? PartName.contentTypes = some after ∧
      ContentTypes.Declared types (document.formats payload fetch) after := by
  obtain ⟨output, media, lacking, filled, packed, touched⟩ := exists_touched rendered
  obtain ⟨draft, made, rfl⟩ := filledDocument_eq_ok_iff.mp filled
  obtain ⟨-, same, -⟩ := Draft.make_eq_ok_iff.mp made
  rw [found, Option.some.injEq] at same
  exact ⟨_, media, lacking, _, filled, packed, touched,
    same ▸ Draft.markup?_filled_contentTypes made fetch,
    ContentTypes.declared_foldl_ensure closed legible⟩

end Rendering

namespace Sample

/-- A template with two pictures and with its own declarations. -/
def withTypes (declarations : String) : Document :=
  { document with parts := [{ types with content := .markup declarations.toList }, body, links] }

theorem stored_withTypes (declarations : String) : (withTypes declarations).Stored :=
  stored.of_same rfl rfl

/-- Each locator is answered with a picture: one in GIF, the other ones in PNG. -/
def fetchPictures : Fetcher := fun locator =>
  .ok (if locator = "logo" then "GIF89a".toUTF8 else "\x89PNG".toUTF8)

/-- A declaration of PNG in upper case, with its attributes in the other order. -/
def typesOfPng : String :=
  "<Types><Default ContentType=\"image/x-png\" Extension=\"PNG\"/></Types>"

theorem legible_typesOfPng (format : ImageFormat) :
    ContentTypes.Legible typesOfPng.toList format := by
  constructor <;> cases format <;> decide +kernel

/-- A declaration of PNG in single quotes. -/
def typesInSingleQuotes : String :=
  "<Types><Default Extension='png' ContentType='image/png'/></Types>"

end Sample

/-- A declaration in upper case is found: only the other format is added. -/
theorem render_declares_formats_sample :
    ∃ report output after,
      render (Sample.withTypes Sample.typesOfPng) Sample.payload {} Sample.fetchPictures = .ok report ∧
      filledDocument (Sample.withTypes Sample.typesOfPng) Sample.payload {} Sample.fetchPictures =
        .ok output ∧
      output.markup? PartName.contentTypes = some after ∧
      ContentTypes.Declared Sample.typesOfPng.toList [.gif, .png, .png] after ∧
      (ContentTypes.declarations after .png).length = 1 ∧
      (ContentTypes.declarations after .gif).length = 1 := by
  have fits : (filledDocument (Sample.withTypes Sample.typesOfPng) Sample.payload {}
      Sample.fetchPictures).toOption.any (fun _ => true) = true := by
    decide +kernel
  obtain ⟨report, output, rendered, filled, -, -⟩ :=
      exists_report_satisfying (Sample.stored_withTypes _) rfl fits
  obtain ⟨output', -, -, after, filled', -, -, there, declared⟩ :=
    render_declares_formats rendered rfl (by decide +kernel) fun format _ => Sample.legible_typesOfPng format
  rw [filled, Except.ok.injEq] at filled'
  subst filled'
  have formats : (Sample.withTypes Sample.typesOfPng).formats Sample.payload Sample.fetchPictures =
      [.gif, .png, .png] := by decide +kernel
  rw [formats] at declared
  have one := declared.once .png (by decide)
  have other := declared.once .gif (by decide)
  exact ⟨report, output, after, rendered, filled, there, declared, one.trans (by decide +kernel),
    other.trans (by decide +kernel)⟩

/-- A root that closes itself gets no declarations, and a declaration in single quotes gets a second
    one beside it. -/
theorem render_misses_declarations :
    (∃ report output after,
      render (Sample.withTypes "<Types/>") Sample.payload {} Sample.fetch = .ok report ∧
      filledDocument (Sample.withTypes "<Types/>") Sample.payload {} Sample.fetch = .ok output ∧
      output.pack = .ok report.bytes ∧
      .png ∈ (Sample.withTypes "<Types/>").formats Sample.payload Sample.fetch ∧
      output.markup? PartName.contentTypes = some after ∧
      ContentTypes.declarations after .png = []) ∧
    ∃ report output after,
      render (Sample.withTypes Sample.typesInSingleQuotes) Sample.payload {} Sample.fetch =
        .ok report ∧
      filledDocument (Sample.withTypes Sample.typesInSingleQuotes) Sample.payload {} Sample.fetch =
        .ok output ∧
      output.pack = .ok report.bytes ∧
      (ContentTypes.declarations Sample.typesInSingleQuotes.toList .png).length = 1 ∧
      output.markup? PartName.contentTypes = some after ∧
      (ContentTypes.declarations after .png).length = 2 := by
  have missing : (filledDocument (Sample.withTypes "<Types/>") Sample.payload {}
      Sample.fetch).toOption.any (fun output =>
        (output.markup? PartName.contentTypes).any fun after =>
          decide (ContentTypes.declarations after .png = [])) = true := by
    decide +kernel
  have doubled : (filledDocument (Sample.withTypes Sample.typesInSingleQuotes) Sample.payload {}
      Sample.fetch).toOption.any (fun output =>
        (output.markup? PartName.contentTypes).any fun after =>
          decide ((ContentTypes.declarations after .png).length = 2)) = true := by
    decide +kernel
  constructor
  · obtain ⟨report, output, rendered, filled, packed, holds⟩ :=
      exists_report_satisfying (Sample.stored_withTypes _) rfl missing
    obtain ⟨after, there, none⟩ := (Option.any_eq_true _ _).mp holds
    exact ⟨report, output, after, rendered, filled, packed, by decide +kernel, there,
      of_decide_eq_true none⟩
  · obtain ⟨report, output, rendered, filled, packed, holds⟩ :=
      exists_report_satisfying (Sample.stored_withTypes _) rfl doubled
    obtain ⟨after, there, two⟩ := (Option.any_eq_true _ _).mp holds
    exact ⟨report, output, after, rendered, filled, packed, by decide +kernel, there,
      of_decide_eq_true two⟩

end Stencil
