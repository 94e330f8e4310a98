import Stencil.Asset.Pool
import Stencil.Report.Embedding
import Stencil.Report.RenderError

/-! # Rendering

A report is made in three steps. Every part with tags is planned, which binds all tags to
the payload; the pictures of all parts are fetched; then the parts are written from their
plans and the document is packed.

What cannot be filled becomes a warning. A strict report is refused for its warnings, once
all of them are known and before anything is written.
-/

namespace Stencil

/-- What was done for a report, in numbers. -/
structure RenderStatistics where
  /-- The parts that tags were looked for in. -/
  partsScanned : Nat
  /-- The parts with a tag. -/
  partsRendered : Nat
  tagsFound : Nat
  /-- The text tags that were replaced by a value. -/
  textSubstituted : Nat
  imagesEmbedded : Nat
  deriving Repr, DecidableEq

namespace RenderStatistics

def ofPlans (plans : List (PartPlan ByteArray)) : RenderStatistics :=
  { partsScanned := plans.length
    partsRendered := plans.countP PartPlan.hasTags
    tagsFound := (plans.map PartPlan.tagCount).foldr (· + ·) 0
    textSubstituted := (plans.map PartPlan.substitutedCount).foldr (· + ·) 0
    imagesEmbedded := (plans.flatMap PartPlan.pictures).length }

def toJson (statistics : RenderStatistics) : Json :=
  .object
    [("parts_scanned", .ofNat statistics.partsScanned),
     ("parts_rendered", .ofNat statistics.partsRendered),
     ("tags_found", .ofNat statistics.tagsFound),
     ("text_substituted", .ofNat statistics.textSubstituted),
     ("images_embedded", .ofNat statistics.imagesEmbedded)]

end RenderStatistics

structure Report where
  /-- The container of the filled document. -/
  bytes : ByteArray
  warnings : List Warning
  statistics : RenderStatistics

/-- A report whose pictures are not fetched yet. -/
structure Draft where
  document : Document
  /-- The declarations of media types. -/
  contentTypes : Markup
  options : RenderOptions
  plans : List (PartPlan PictureRequest)

namespace Draft

/-- The plans of the parts of the given names. The first one that is no markup stops the
    report; `earlier` are the warnings before these parts. -/
def planParts (document : Document) (payload : Payload) (linebreaks : Bool)
    (earlier : List Warning) : List String → Except RenderError (List (PartPlan PictureRequest))
  | [] => .ok []
  | name :: rest =>
    match document.markup? name with
    | none => .error (.unreadablePart name earlier)
    | some source =>
      let plan := PartPlan.make payload linebreaks name source
      (planParts document payload linebreaks (earlier ++ plan.warnings) rest).map (plan :: ·)

/-- Plan every part of a document that carries tags. -/
def make (document : Document) (payload : Payload) (options : RenderOptions) :
    Except RenderError Draft := do
  (document.require PartName.required).mapError RenderError.package
  match document.markup? PartName.contentTypes with
  | none => .error (.unreadablePart PartName.contentTypes [])
  | some contentTypes =>
    let plans ← planParts document payload options.linebreaks [] document.templateNames
    return { document, contentTypes, options, plans }

/-- The pictures to fetch, in order. -/
def requests (draft : Draft) : List PictureRequest :=
  draft.plans.flatMap PartPlan.pictures

/-- Where the pictures to fetch are found, in order. -/
def locators (draft : Draft) : List String :=
  draft.requests.map PictureRequest.locator

def warnings (draft : Draft) (outcomes : List FetchOutcome) : List Warning :=
  draft.plans.flatMap PartPlan.warnings ++ PictureRequest.warnings draft.requests outcomes

/-- The number of the first new drawing: one more than the greatest number in any part that
    was scanned. -/
def firstDrawing (draft : Draft) : UInt32 :=
  let greatest := (draft.plans.map fun plan => Drawing.greatestIdIn plan.source).foldl max 0
  UInt32.ofNat greatest + 1

/-- The filled document, given the supplied plans. -/
def fill (draft : Draft) (plans : List (PartPlan ByteArray)) : Document :=
  (plans.foldl (Embedding.writePart draft.options)
    (Embedding.begin draft.document draft.contentTypes draft.firstDrawing)).finish

def complete (draft : Draft) (outcomes : List FetchOutcome) : Except RenderError Report :=
  let warnings := draft.warnings outcomes
  if draft.options.strict && !warnings.isEmpty then .error (.unresolved warnings)
  else
    let plans := PartPlan.supply draft.plans outcomes
    match (draft.fill plans).pack with
    | .ok bytes => .ok { bytes, warnings, statistics := RenderStatistics.ofPlans plans }
    | .error error => .error (.package error)

/-- The locators that are fetched for what was drafted, in order; nothing is fetched where
    there is no draft. -/
def fetches : Except RenderError Draft → List String
  | .ok draft => draft.locators
  | .error _ => []

end Draft

def render (document : Document) (payload : Payload) (options : RenderOptions)
    (fetch : Fetcher) : Except RenderError Report :=
  let drafted := Draft.make document payload options
  let outcomes := fetchAll fetch options.concurrency (Draft.fetches drafted)
  drafted.bind fun draft => draft.complete outcomes

/-- The locators that a render fetches, in order. -/
def fetchedLocators (document : Document) (payload : Payload) (options : RenderOptions) :
    List String :=
  Draft.fetches (Draft.make document payload options)

end Stencil
