import Stencil.Json.Basic
import Stencil.Package.Document
import Stencil.Scan

/-! # Inspecting templates

An inspection lists what looks like a tag in a template, without any payload.
-/

namespace Stencil

/-- A text in a template that is a tag or looks like one. -/
structure Occurrence where
  part : String
  kind : TagKind
  identifier : String
  formatter : Option String
  /-- The text without markup. -/
  raw : String
  /-- Why the text is no tag, if it is none. -/
  malformed : Option String
  deriving Repr, DecidableEq

namespace Occurrence

def isMalformed (occurrence : Occurrence) : Bool :=
  occurrence.malformed.isSome

def ofTag (part : String) (span : TagSpan) : Occurrence :=
  { part, kind := span.tag.kind, identifier := span.tag.identifier
    formatter := span.tag.formatter, raw := String.ofList span.text, malformed := none }

def ofMalformed (part : String) (span : MalformedSpan) : Occurrence :=
  let tag := Tag.parse span.text
  { part, kind := tag.kind, identifier := tag.identifier, formatter := tag.formatter
    raw := String.ofList span.text, malformed := some span.defect.message }

/-- The occurrences in the source of a part, by increasing offset. -/
def inSource (part : String) (source : Markup) : List Occurrence :=
  let scan := Stencil.scan source
  let tags := scan.tags.map fun span => (span.start, ofTag part span)
  let malformed := scan.malformed.map fun span => (span.start, ofMalformed part span)
  ((tags ++ malformed).mergeSort fun one other => one.1 ≤ other.1).map Prod.snd

def toJson (occurrence : Occurrence) : Json :=
  .object
    [("part", .string occurrence.part), ("kind", .string occurrence.kind.name),
     ("identifier", .string occurrence.identifier),
     ("formatter", .ofString? occurrence.formatter), ("raw", .string occurrence.raw),
     ("malformed", .ofString? occurrence.malformed)]

def kindOfJson? (value : Json) : Option TagKind :=
  value.word?.bind fun word =>
    [TagKind.text, TagKind.image].find? fun kind => kind.name = word

def ofJson? (value : Json) : Option Occurrence :=
  match value.components? ["part", "kind", "identifier", "formatter", "raw", "malformed"] with
  | some [part, some kind, identifier, formatter, raw, malformed] => do
    return {
      part := ← Json.requiredString? part
      kind := ← kindOfJson? kind
      identifier := ← Json.requiredString? identifier
      formatter := ← Json.optionalString? formatter
      raw := ← Json.requiredString? raw
      malformed := ← Json.optionalString? malformed }
  | _ => none

end Occurrence

def notMarkup : String := "not UTF-8 markup"

def inspectPart (document : Document) (name : String) : Except PackageError (List Occurrence) :=
  match document.markup? name with
  | some source => .ok (Occurrence.inSource name source)
  | none => .error (.unreadablePart name notMarkup)

/-- Everything in a template that looks like a tag, part by part. -/
def inspect (document : Document) : Except PackageError (List Occurrence) := do
  document.require PartName.required
  let occurrences ← document.templateNames.mapM (inspectPart document)
  return occurrences.flatten

/-- The identifiers of tags, each at its first occurrence. -/
def identifiers (occurrences : List Occurrence) : List String :=
  ((occurrences.filter fun occurrence => !occurrence.isMalformed).map
    Occurrence.identifier).foldl
      (fun found identifier => if found.contains identifier then found else found ++ [identifier])
      []

end Stencil
