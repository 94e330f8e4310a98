import Stencil.Proofs.Package.Rooted
import Stencil.Proofs.Report.Packing
import Stencil.Proofs.Text.Utf8

/-! # Relationships behind a report

Pictures are declared in the relationships of the parts they are put into. All relationships that
there were stay, in their order, where the root is found; other parts of the kind are not touched
unless a picture is declared in them.

Main statement: `render_keeps_relationships`. A prefix of the root's namespace, and a part that is not
UTF-8, are where relationships are lost: `render_breaks_relationships`.
-/

namespace Stencil

theorem Relationships.Rooted.exists_foldl_declareIn {markup : Markup} (h : Rooted markup)
    (placements : List Placement) :
    ∃ after, placements.foldl Placement.declareIn (some markup) = some after ∧ Kept markup after := by
  induction placements generalizing markup with
  | nil => exact ⟨markup, rfl, .refl markup⟩
  | cons placement rest ih =>
      obtain ⟨kept, rooted⟩ := kept_addImage h placement.relationship placement.target
      obtain ⟨after, found, later⟩ := ih rooted
      exact ⟨after, found, kept.trans later⟩

section Rendering

variable {document : Document} {payload : Payload} {options : RenderOptions} {fetch : Fetcher}
  {report : Report}

theorem Touched.content?_eq {output : Document} {media lacking : List Part}
    (h : Touched document payload fetch report output media lacking) {name : String}
    (there : document.contains name = true) (untagged : PartName.isTemplate name = false)
    (other : name ≠ PartName.contentTypes)
    (apart : ∀ picture ∈ document.pictures payload fetch, Relationships.partFor picture.1 ≠ name) :
    output.content? name = document.content? name := by
  have fixed : ¬ document.MayChange payload fetch name := by
    intro changes
    cases changes with
    | tagged template =>
        rw [(Document.contains_of_mem_templates template).1] at untagged
        cases untagged
    | contentTypes => exact other rfl
    | relationships embedded => exact apart _ embedded rfl
  have old : name ∉ (media ++ lacking).map Part.name := by
    intro added
    obtain ⟨part, mem, rfl⟩ := List.mem_map.mp added
    rw [(h.frame.new part mem).1] at there
    cases there
  rw [Document.content?, h.frame.part?_eq fixed old]
  rfl

/-- The relationships of a part in the filled document are those that there were with one more for each
    of its pictures. -/
theorem exists_markup?_partFor {draft : Draft}
    (made : Draft.make document payload options = .ok draft) (fetch : Fetcher) (part : String) :
    ∃ placements : List Placement, placements.map Placement.origin = document.pictures payload fetch ∧
      (draft.filled (draft.locators.map fetch)).markup? (Relationships.partFor part) =
        (placements.filter (·.home = Relationships.partFor part)).foldl Placement.declareIn
          (document.markup? (Relationships.partFor part)) := by
  obtain ⟨placements, embedding, course, sound, finished, origins⟩ := Draft.exists_course made fetch
  refine ⟨placements, origins, ?_⟩
  rw [finished, sound.markup?_finish_partFor,
    course.relationships?_eq (fun _ => Document.WritesOver.isTemplate)]
  rfl

/-- Embedding pictures never damages relationships with a root that is found: every relationship is
    still there, in its place among the others, and the elements are balanced if they were. A part that
    no picture is declared in has the content that it had. -/
theorem render_keeps_relationships (rendered : render document payload options fetch = .ok report) :
    ∃ output, filledDocument document payload options fetch = .ok output ∧
      output.pack = .ok report.bytes ∧
      ∀ name, document.contains name = true → PartName.isTemplate name = false →
        name ≠ PartName.contentTypes →
        ((∀ picture ∈ document.pictures payload fetch, Relationships.partFor picture.1 ≠ name) →
          output.content? name = document.content? name) ∧
        ∀ before, document.markup? name = some before → Relationships.Rooted before →
          ∃ after, output.markup? name = some after ∧ Relationships.Kept before after := by
  obtain ⟨output, media, lacking, filled, packed, touched⟩ := exists_touched rendered
  refine ⟨output, filled, packed, fun name there untagged other => ?_⟩
  have untouched := touched.content?_eq there untagged other
  refine ⟨untouched, fun before found rooted => ?_⟩
  by_cases home : ∃ picture ∈ document.pictures payload fetch,
      Relationships.partFor picture.1 = name
  · obtain ⟨picture, -, rfl⟩ := home
    obtain ⟨draft, made, rfl⟩ := filledDocument_eq_ok_iff.mp filled
    obtain ⟨placements, -, declared⟩ := exists_markup?_partFor made fetch picture.1
    rw [declared, found]
    exact rooted.exists_foldl_declareIn _
  · have same := untouched fun picture mem here => home ⟨picture, mem, here⟩
    exact ⟨before, by rw [Document.markup?, same]; exact found, .refl before⟩

end Rendering

namespace Sample

/-- A body with one picture. -/
def pictured : Part :=
  { body with content := .markup "<w:t>{%seal}</w:t>".toList }

/-- A template with one picture and relationships of its body. -/
def withLinks (content : PartContent) : Document :=
  { document with parts := [types, pictured, { links with content }] }

theorem stored_withLinks (content : PartContent) : (withLinks content).Stored :=
  stored.of_same rfl rfl

/-- A root that closes itself. -/
def bareRoot : Markup :=
  "<Relationships xmlns=\"http://schemas.openxmlformats.org/package/2006/relationships\"/>\n".toList

theorem rooted_bareRoot : Relationships.Rooted bareRoot := by
  let inner : Markup :=
    "Relationships xmlns=\"http://schemas.openxmlformats.org/package/2006/relationships\"".toList
  exact @Relationships.Rooted.selfClosing _ [] inner ['\n'] (by decide +kernel) (by decide +kernel)
    (by decide +kernel) (by decide +kernel)

/-- A root with a prefix of its namespace. -/
def prefixedRoot : Markup :=
  ("<r:Relationships xmlns:r=\"http://schemas.openxmlformats.org/package/2006/relationships\">" ++
    "<r:Relationship Id=\"rId1\" Target=\"styles.xml\"/></r:Relationships>").toList

/-- The tag of a relationship whose target has a letter of Latin-1. -/
def latinRelationship : List UInt8 :=
  "<Relationship Id=\"rId1\" Target=\"caf".toUTF8.toList ++ 0xE9 :: ".xml\"/>".toUTF8.toList

/-- Relationships that are encoded in Latin-1. -/
def latinRoot : ByteArray :=
  ⟨("<?xml version=\"1.0\" encoding=\"ISO-8859-1\"?><Relationships>".toUTF8.toList ++
    latinRelationship ++ "</Relationships>".toUTF8.toList).toArray⟩

end Sample

/-- The relationships of a root that closes itself are kept when a picture is declared. -/
theorem render_keeps_relationships_sample :
    ∃ report output after,
      render (Sample.withLinks (.markup Sample.bareRoot)) Sample.payload {} Sample.fetch = .ok report ∧
      filledDocument (Sample.withLinks (.markup Sample.bareRoot)) Sample.payload {} Sample.fetch =
        .ok output ∧
      output.markup? (Relationships.partFor PartName.mainDocument) = some after ∧
      Relationships.Kept Sample.bareRoot after ∧
      ((Markup.elements after).filter Relationships.isRelationship).length = 1 := by
  have found : (filledDocument (Sample.withLinks (.markup Sample.bareRoot)) Sample.payload {}
      Sample.fetch).toOption.any (fun output =>
        (output.markup? (Relationships.partFor PartName.mainDocument)).any fun after =>
          ((Markup.elements after).filter Relationships.isRelationship).length = 1) = true := by
    decide +kernel
  obtain ⟨report, output, rendered, filled, -, declared⟩ :=
      exists_report_satisfying (Sample.stored_withLinks _) rfl found
  obtain ⟨output', filled', -, parts⟩ := render_keeps_relationships rendered
  rw [filled, Except.ok.injEq] at filled'
  subst filled'
  obtain ⟨-, kept⟩ := parts (Relationships.partFor PartName.mainDocument) (by decide +kernel)
    (PartName.isTemplate_partFor _) (PartName.partFor_ne_contentTypes _)
  obtain ⟨after, there, kept⟩ := kept Sample.bareRoot
    (by decide +kernel) Sample.rooted_bareRoot
  rw [there, Option.any_some] at declared
  exact ⟨report, output, after, rendered, filled, there, kept, of_decide_eq_true declared⟩

namespace Sample

/-- The end of the last relationship is taken for that of a root with a prefix. -/
theorem exists_unbalanced_prefixedRoot : ∃ report output after,
    render (withLinks (.markup prefixedRoot)) payload {} fetch = .ok report ∧
    filledDocument (withLinks (.markup prefixedRoot)) payload {} fetch = .ok output ∧
    output.pack = .ok report.bytes ∧
    output.markup? (Relationships.partFor PartName.mainDocument) = some after ∧
    Markup.Balanced (Markup.elements prefixedRoot) ∧
    ¬ Markup.Balanced (Markup.elements after) ∧
    ∃ element ∈ Markup.elements prefixedRoot,
      Relationships.isRelationship element ∧ ¬ element <:+: after := by
  have broken : (filledDocument (withLinks (.markup prefixedRoot)) payload {} fetch).toOption.any
      (fun output =>
        (output.markup? (Relationships.partFor PartName.mainDocument)).any fun after =>
          !decide (Markup.Balanced (Markup.elements after)) &&
            (Markup.elements prefixedRoot).any fun element =>
              Relationships.isRelationship element && !Text.occurs element after) = true := by
    decide +kernel
  obtain ⟨report, output, rendered, filled, packed, holds⟩ :=
    exists_report_satisfying (stored_withLinks _) rfl broken
  obtain ⟨after, there, holds⟩ := (Option.any_eq_true _ _).mp holds
  simp only [Bool.and_eq_true, Bool.not_eq_true', decide_eq_false_iff_not, List.any_eq_true] at holds
  obtain ⟨unbalanced, element, listed, isRelationship, lost⟩ := holds
  refine ⟨report, output, after, rendered, filled, packed, there, by decide +kernel, unbalanced,
    element, listed, isRelationship, fun inside => ?_⟩
  rw [Text.occurs_iff.mpr inside] at lost
  cases lost

/-- Relationships that are not in UTF-8 are replaced by those of ASCII that a picture begins. -/
theorem exists_replaced_latinRoot : ∃ report output bytes,
    render (withLinks (.binary latinRoot)) payload {} fetch = .ok report ∧
    filledDocument (withLinks (.binary latinRoot)) payload {} fetch = .ok output ∧
    output.pack = .ok report.bytes ∧
    PartContent.ofBytes (Relationships.partFor PartName.mainDocument) latinRoot = .binary latinRoot ∧
    output.bytes? (Relationships.partFor PartName.mainDocument) = some bytes ∧
    latinRelationship <:+: latinRoot.data.toList ∧ ¬ latinRelationship <:+: bytes.toList := by
  have replaced : (filledDocument (withLinks (.binary latinRoot)) payload {} fetch).toOption.any
      (fun output =>
        (output.markup? (Relationships.partFor PartName.mainDocument)).any fun after =>
          after.all fun c => c.toNat < 0x80) = true := by
    decide +kernel
  obtain ⟨report, output, rendered, filled, packed, holds⟩ :=
    exists_report_satisfying (stored_withLinks _) rfl replaced
  obtain ⟨after, there, ascii⟩ := (Option.any_eq_true _ _).mp holds
  obtain ⟨content, found, isMarkup⟩ := Option.bind_eq_some_iff.mp there
  obtain rfl : content = .markup after := by
    cases content with
    | markup text => exact congrArg PartContent.markup (Option.some.inj isMarkup)
    | binary bytes => cases isMarkup
  refine ⟨report, output, _, rendered, filled, packed, by decide +kernel,
    by rw [Document.bytes?, found]; rfl, ⟨_, _, rfl⟩, fun inside => ?_⟩
  have letter : (0xE9 : UInt8) ∈ latinRelationship := by decide +kernel
  have small := Text.lt_of_mem_toUTF8 (fun c mem => of_decide_eq_true (List.all_eq_true.mp ascii c mem))
    _ (inside.subset letter)
  exact absurd small (by decide)

end Sample

/-- A picture damages the relationships of a root that has a prefix of its namespace: the end of the
    last relationship is taken for that of the root. And relationships that are not in UTF-8 are
    replaced by new ones. -/
theorem render_breaks_relationships :
    (∃ report output after,
      render (Sample.withLinks (.markup Sample.prefixedRoot)) Sample.payload {} Sample.fetch =
        .ok report ∧
      filledDocument (Sample.withLinks (.markup Sample.prefixedRoot)) Sample.payload {} Sample.fetch =
        .ok output ∧
      output.pack = .ok report.bytes ∧
      output.markup? (Relationships.partFor PartName.mainDocument) = some after ∧
      Markup.Balanced (Markup.elements Sample.prefixedRoot) ∧
      ¬ Markup.Balanced (Markup.elements after) ∧
      ∃ element ∈ Markup.elements Sample.prefixedRoot,
        Relationships.isRelationship element ∧ ¬ element <:+: after) ∧
    ∃ report output bytes,
      render (Sample.withLinks (.binary Sample.latinRoot)) Sample.payload {} Sample.fetch =
        .ok report ∧
      filledDocument (Sample.withLinks (.binary Sample.latinRoot)) Sample.payload {} Sample.fetch =
        .ok output ∧
      output.pack = .ok report.bytes ∧
      PartContent.ofBytes (Relationships.partFor PartName.mainDocument) Sample.latinRoot =
        .binary Sample.latinRoot ∧
      output.bytes? (Relationships.partFor PartName.mainDocument) = some bytes ∧
      Sample.latinRelationship <:+: Sample.latinRoot.data.toList ∧
      ¬ Sample.latinRelationship <:+: bytes.toList :=
  ⟨Sample.exists_unbalanced_prefixedRoot, Sample.exists_replaced_latinRoot⟩

end Stencil
