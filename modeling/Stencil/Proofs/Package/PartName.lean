import Stencil.Package.Relationships
import Stencil.Proofs.Text.Search

/-! # What names of parts begin and end with

A part with tags, the relationships of a part and the declarations of media types have names
that tell them apart.
-/

namespace Stencil.PartName

theorem append_of_between? {lead tail text stem : List Char}
    (h : between? lead tail text = some stem) : lead ++ (stem ++ tail) = text := by
  obtain ⟨rest, led, tailed⟩ := Option.bind_eq_some_iff.mp h
  rw [Text.dropTail?_eq_some.mp tailed, Text.dropLead?_eq_some.mp led]

/-- A part with tags lies in the folder of the document and is spelled with the extension of
    markup. -/
theorem exists_stem_of_isTemplate {name : String} (h : isTemplate name = true) :
    ∃ stem, name.toList = "word/".toList ++ (stem ++ ".xml".toList) := by
  rw [isTemplate] at h
  split at h
  · cases h
  · next stem found => exact ⟨stem, (append_of_between? found).symm⟩

theorem getLast?_of_isTemplate {name : String} (h : isTemplate name = true) :
    name.toList.getLast? = some 'l' := by
  obtain ⟨stem, spelled⟩ := exists_stem_of_isTemplate h
  rw [spelled, List.getLast?_append, List.getLast?_append]
  rfl

theorem isMarkup_of_isTemplate {name : String} (h : isTemplate name = true) :
    isMarkup name = true := by
  obtain ⟨stem, spelled⟩ := exists_stem_of_isTemplate h
  have lowered : Text.dropTail? ".xml".toList (Text.lowerAscii name.toList) =
      some (Text.lowerAscii ("word/".toList ++ stem)) := by
    have extension : Text.lowerAscii ".xml".toList = ".xml".toList := by decide
    rw [Text.dropTail?_eq_some, spelled, ← List.append_assoc, ← extension]
    exact List.map_append.symm
  rw [isMarkup, lowered]
  rfl

theorem getLast?_of_isMarkup {name : String} (h : isMarkup name = true) :
    ∃ c ∈ ['l', 's'], (Text.lowerAscii name.toList).getLast? = some c := by
  rw [isMarkup, Bool.or_eq_true, Option.isSome_iff_exists, Option.isSome_iff_exists] at h
  rcases h with ⟨stem, found⟩ | ⟨stem, found⟩
  · refine ⟨'l', by decide, ?_⟩
    rw [← Text.dropTail?_eq_some.mp found, List.getLast?_append]
    rfl
  · refine ⟨'s', by decide, ?_⟩
    rw [← Text.dropTail?_eq_some.mp found, List.getLast?_append]
    rfl

theorem ne_contentTypes_of_isTemplate {name : String} (h : isTemplate name = true) :
    name ≠ contentTypes := by
  rintro rfl
  exact absurd h (by decide)

/-- The relationships of a part stand in markup. -/
theorem isMarkup_partFor (part : String) : isMarkup (Relationships.partFor part) = true := by
  obtain ⟨stem, spelled⟩ : ∃ stem, (Relationships.partFor part).toList = stem ++ ".rels".toList := by
    rw [Relationships.partFor, String.toList_ofList]
    split <;> exact ⟨_, rfl⟩
  have lowered : Text.dropTail? ".rels".toList (Text.lowerAscii (Relationships.partFor part).toList) =
      some (Text.lowerAscii stem) := by
    have extension : Text.lowerAscii ".rels".toList = ".rels".toList := by decide
    rw [Text.dropTail?_eq_some, spelled, ← extension]
    exact List.map_append.symm
  rw [isMarkup, lowered]
  exact Bool.or_true _

theorem getLast?_partFor (part : String) :
    (Relationships.partFor part).toList.getLast? = some 's' := by
  rw [Relationships.partFor, String.toList_ofList]
  split
  · rw [List.getLast?_append]
    rfl
  · rw [List.getLast?_append]
    rfl

theorem isTemplate_partFor (part : String) : isTemplate (Relationships.partFor part) = false := by
  refine Bool.eq_false_iff.mpr fun template => ?_
  have last := getLast?_of_isTemplate template
  rw [getLast?_partFor] at last
  exact absurd last (by decide)

theorem partFor_ne_contentTypes (part : String) : Relationships.partFor part ≠ contentTypes := by
  intro same
  have last := getLast?_partFor part
  rw [same] at last
  exact absurd last (by decide)

theorem file_subset (name : List Char) : file name ⊆ name := by
  rw [file, splitFolder?, Text.splitLast?]
  cases found : Text.splitFirst? '/' name.reverse with
  | none => exact List.Subset.refl name
  | some cut =>
      obtain ⟨whole, -⟩ := Text.splitFirst?_eq_some.mp found
      intro c mem
      rw [← List.mem_reverse, whole]
      exact List.mem_append_left _ (List.mem_reverse.mp mem)

end Stencil.PartName
