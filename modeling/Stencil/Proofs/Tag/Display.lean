import Stencil.Proofs.Text.Search
import Stencil.Tag

/-! # Displayed tags

A tag is displayed with the delimiters of its kind around its identifier and its formatter. Parsing
takes off these delimiters and no more, whatever braces, percent signs and colons stand between
them, so that what is displayed can be read again.

Main statements: `Tag.exists_parse_eq_iff`, `Tag.parse_display_parse`.
-/

namespace Stencil.Tag

/-- What stands between the delimiters of a displayed tag. -/
def body (tag : Tag) : List Char :=
  match tag.formatter with
  | some formatter => tag.identifier.toList ++ ':' :: formatter.toList
  | none => tag.identifier.toList

/-- The tag of a kind that a body is read as. -/
def ofBody (kind : TagKind) (body : List Char) : Tag :=
  match Text.splitFirst? ':' body with
  | some (identifier, formatter) =>
    { kind, identifier := String.ofList (Text.trim identifier)
      formatter := some (String.ofList (Text.trim formatter)) }
  | none => { kind, identifier := String.ofList (Text.trim body), formatter := none }

theorem display_eq (tag : Tag) :
    tag.display = opening tag.kind ++ tag.body ++ closing tag.kind := rfl

theorem parse_eq (raw : List Char) :
    parse raw = ofBody (undelimited (Text.trim raw)).1 (undelimited (Text.trim raw)).2 := rfl

/-- What parsing gives: a trimmed identifier without a colon, and a trimmed formatter or none. -/
structure Canonical (tag : Tag) : Prop where
  identifier : Text.trim tag.identifier.toList = tag.identifier.toList
  undivided : ':' ∉ tag.identifier.toList
  formatter : ∀ formatter ∈ tag.formatter, Text.trim formatter.toList = formatter.toList

theorem canonical_ofBody (kind : TagKind) (body : List Char) : (ofBody kind body).Canonical := by
  have trimmed (text : List Char) : Text.trim (String.ofList (Text.trim text)).toList =
      (String.ofList (Text.trim text)).toList := by
    rw [String.toList_ofList, Text.trim_trim]
  have whole {text : List Char} (undivided : ':' ∉ text) :
      ':' ∉ (String.ofList (Text.trim text)).toList := by
    rw [String.toList_ofList]
    exact fun mem => undivided (Text.trim_subset _ mem)
  unfold ofBody
  cases split : Text.splitFirst? ':' body with
  | none => exact ⟨trimmed body, whole (Text.splitFirst?_eq_none.mp split), nofun⟩
  | some parts =>
      obtain ⟨identifier, formatter⟩ := parts
      obtain ⟨-, undivided⟩ := Text.splitFirst?_eq_some.mp split
      refine ⟨trimmed identifier, whole undivided, ?_⟩
      rintro _ ⟨⟩
      exact trimmed formatter

/-- The body of a canonical tag is divided where the formatter begins. -/
theorem Canonical.ofBody_body {tag : Tag} (h : tag.Canonical) : ofBody tag.kind tag.body = tag := by
  obtain ⟨kind, identifier, formatter⟩ := tag
  cases formatter with
  | none =>
      have whole : Text.splitFirst? ':' identifier.toList = none :=
        Text.splitFirst?_eq_none.mpr h.undivided
      simp only [body, ofBody, whole, h.identifier, String.ofList_toList]
  | some formatter =>
      have divided : Text.splitFirst? ':' (identifier.toList ++ ':' :: formatter.toList) =
          some (identifier.toList, formatter.toList) :=
        Text.splitFirst?_append h.undivided _
      have trimmed := h.formatter formatter rfl
      simp only [body, ofBody, divided, h.identifier, trimmed, String.ofList_toList]

/-- The delimiters are no blanks, so nothing is trimmed off a displayed tag. -/
theorem trim_delimited (kind : TagKind) (body : List Char) :
    Text.trim (opening kind ++ body ++ closing kind) = opening kind ++ body ++ closing kind := by
  have last : (opening kind ++ body ++ closing kind).getLast? = some '}' := by
    cases kind <;> simp [closing]
  cases kind with
  | text => exact Text.trim_of_ends rfl last (by decide) (by decide)
  | image => exact Text.trim_of_ends rfl last (by decide) (by decide)

/-- The delimiters of a kind are taken off a body, and they tell the kind. -/
theorem undelimited_delimited (kind : TagKind) (body : List Char) :
    undelimited (opening kind ++ body ++ closing kind) = (kind, body) := by
  cases kind with
  | text =>
      have image : Text.dropLead? (opening .image) (opening .text ++ body ++ closing .text) = none := by
        rw [Text.dropLead?_eq_none]
        simp [opening]
      have text : Text.dropLead? (opening .text) (opening .text ++ body ++ closing .text) =
          some (body ++ closing .text) := Text.dropLead?_eq_some.mpr (List.append_assoc ..).symm
      rw [undelimited, image, text]
      exact congrArg (Prod.mk TagKind.text) (Text.dropTail_append _ _)
  | image =>
      have image : Text.dropLead? (opening .image) (opening .image ++ body ++ closing .image) =
          some (body ++ ['%'] ++ ['}']) := by
        rw [Text.dropLead?_eq_some]
        simp [closing]
      -- the percent sign keeps the blanks that the body may end with
      have kept : Text.trimEnd (body ++ ['%']) = body ++ ['%'] := by
        rw [Text.trimEnd, List.reverse_concat, List.dropWhile_cons_of_neg (by decide),
          ← List.reverse_concat, List.reverse_reverse]
      rw [undelimited, image]
      simp only [Text.dropTail_append, kept]

/-- A canonical tag is what its displayed text is parsed as. -/
theorem Canonical.parse_display {tag : Tag} (h : tag.Canonical) : parse tag.display = tag := by
  rw [parse_eq, display_eq, trim_delimited, undelimited_delimited]
  exact h.ofBody_body

theorem canonical_parse (raw : List Char) : (parse raw).Canonical :=
  canonical_ofBody _ _

/-- Canonical tags, and only they, are what texts are parsed as. -/
theorem exists_parse_eq_iff {tag : Tag} : (∃ raw, parse raw = tag) ↔ tag.Canonical := by
  constructor
  · rintro ⟨raw, rfl⟩
    exact canonical_parse raw
  · exact fun canonical => ⟨tag.display, canonical.parse_display⟩

/-- Whatever text a tag was parsed from, its displayed text is parsed as the same tag; so texts
    stand for one tag exactly when the same is displayed of both. -/
theorem parse_display_parse (raw : List Char) :
    parse (parse raw).display = parse raw ∧
      ∀ other, (parse other).display = (parse raw).display ↔ parse other = parse raw := by
  have again (raw : List Char) : parse (parse raw).display = parse raw :=
    (canonical_parse raw).parse_display
  refine ⟨again raw, fun other => ⟨fun same => ?_, congrArg display⟩⟩
  calc parse other = parse (parse other).display := (again other).symm
    _ = parse (parse raw).display := by rw [same]
    _ = parse raw := again raw

/-- A formatter may be empty, and it may end in a percent sign. -/
example : parse (parse "{% a : %%} ".toList).display = ⟨.image, "a", some "%"⟩ ∧
    parse (parse "\x7b\x7ba:".toList).display = ⟨.text, "a", some ""⟩ := by
  decide

end Stencil.Tag
