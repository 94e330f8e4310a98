import Stencil.Proofs.Report.Outages
import Stencil.Proofs.Report.Splice

/-! # The shapes of values

What becomes of a tag is decided by the shape of the value that its identifier has in the payload:
which image tags ask for a picture and for which one, which tags are warned of, and which text tags
have a value.

A number and a truth value locate no picture, nor does a list of such values and of strings, and yet
an image tag asks for their text as if it were a locator.

Main statement: `render_follows_shapes`. Where scalars are bound to image tags:
`render_asks_for_scalars`.
-/

namespace Stencil

/-- What a value is to the tags that are bound to it. -/
inductive Shape where
  /-- No value, null or an empty list. -/
  | nothing
  /-- A string, an object with a string as its `url`, a list that begins with such an object, or a
      list of one string. -/
  | located (locator : String)
  /-- A number, a truth value, or any other list of scalars. -/
  | scalars
  /-- Any other object or list. -/
  | structured
  deriving Repr, DecidableEq

namespace Shape

/-- Whether the value is a string, a number or a truth value. -/
def isScalar : Json → Bool
  | .string _ | .number _ | .bool _ => true
  | .null | .array _ | .object _ => false

/-- The shape of an object. -/
def ofFields (fields : List (String × Json)) : Shape :=
  match fields.lookup "url" with
  | some (.string url) => located url
  | _ => structured

/-- The shape of a value, or of none. -/
def ofValue : Option Json → Shape
  | none | some .null | some (.array []) => nothing
  | some (.string text) | some (.array [.string text]) => located text
  | some (.object fields) | some (.array (.object fields :: _)) => ofFields fields
  | some (.number _) | some (.bool _) => scalars
  | some (.array items) => if items.all isScalar then scalars else structured

/-- A shape and what values of it are bound as. -/
inductive Binds : Shape → Binding → Prop where
  | nothing : Binds nothing .missing
  | string (text : String) : Binds (located text) (.scalar text)
  | asset (url : String) : Binds (located url) (.asset url)
  | scalars (text : String) : Binds scalars (.scalar text)
  | structured (text : String) : Binds structured (.structured text)

theorem isSome_mapM_scalarText? (items : List Json) :
    (items.mapM Binding.scalarText?).isSome = items.all isScalar := by
  induction items with
  | nil => rfl
  | cons item rest ih =>
      rw [List.mapM_cons, List.all_cons, ← ih]
      cases item with
      | null | array | object => rfl
      | bool | number | string => cases rest.mapM Binding.scalarText? <;> rfl

theorem binds_fields (fields : List (String × Json)) (text : String) :
    Binds (ofFields fields)
      (match Binding.url? (.object fields) with
        | some url => .asset url
        | none => .structured text) := by
  have url : Binding.url? (.object fields) = (fields.lookup "url").bind Json.string? := rfl
  rw [url, ofFields]
  cases fields.lookup "url" with
  | none => exact .structured text
  | some value =>
      cases value with
      | string url => exact .asset url
      | null | bool | number | array | object => exact .structured text

/-- Without an asset at its head, a list is bound by whether all of its items are scalars. -/
theorem binds_items (items : List Json) (text : String) :
    Binds (if items.all isScalar then scalars else structured)
      (match items.mapM Binding.scalarText? with
        | some texts => .scalar (String.ofList (Text.join [',', ' '] texts))
        | none => .structured text) := by
  rw [← isSome_mapM_scalarText?]
  cases items.mapM Binding.scalarText? with
  | none => exact .structured text
  | some texts => exact .scalars _

theorem binds_ofJson (value : Json) : Binds (ofValue (some value)) (Binding.ofJson value) := by
  cases value with
  | null => exact .nothing
  | bool | number => exact .scalars _
  | string text => exact .string text
  | object fields => exact binds_fields fields _
  | array items =>
      cases items with
      | nil => exact .nothing
      | cons first rest =>
          have listed := binds_items (first :: rest)
            (String.ofList (Json.array (first :: rest)).compact)
          cases first with
          | null | bool | number | array => exact listed
          | object fields => exact binds_fields fields _
          | string text =>
              cases rest with
              | nil =>
                  have alone : Binding.ofJson (.array [.string text]) =
                      .scalar (String.ofList text.toList) := rfl
                  rw [alone, String.ofList_toList]
                  exact .string text
              | cons => exact listed

theorem binds_binding (payload : Payload) (identifier : String) :
    Binds (ofValue (payload.value? identifier)) (payload.binding identifier) := by
  rw [Payload.binding]
  cases payload.value? identifier with
  | none => exact .nothing
  | some value => exact binds_ofJson value

end Shape

namespace TagSpan

variable (payload : Payload) (fetch : Fetcher) (tag : TagSpan)

/-- The shape of the value that a tag is bound to. -/
def shape : Shape :=
  Shape.ofValue (payload.value? tag.tag.identifier)

/-- The locator that a tag asks for. Scalars that locate nothing are asked for by the text that a
    text tag is replaced by. -/
def asked? : Option String :=
  match tag.tag.kind, tag.shape payload with
  | .image, .located locator => some locator
  | .image, .scalars => (payload.binding tag.tag.identifier).text?
  | .image, .nothing | .image, .structured | .text, _ => none

/-- Why the value of a tag is of no use. -/
def complaint? : Option WarningReason :=
  match tag.tag.kind, tag.shape payload with
  | _, .nothing => some .unresolved
  | .image, .structured => some .notAnAsset
  | .text, .located _ | .text, .scalars | .text, .structured | .image, .located _
  | .image, .scalars => none

/-- Why the picture that a tag asks for cannot be had. -/
def outage? : Option WarningReason :=
  (tag.asked? payload).bind fun locator =>
    match fetch locator with
    | .ok _ => none
    | .error failure => some (.fetchFailed failure.message)

theorem binds : Shape.Binds (tag.shape payload) (payload.binding tag.tag.identifier) :=
  Shape.binds_binding payload tag.tag.identifier

theorem locator?_eq_asked? : tag.locator? payload = tag.asked? payload := by
  have binds := tag.binds payload
  unfold locator? asked?
  generalize tag.shape payload = shape at binds ⊢
  cases tag.tag.kind with
  | text => rfl
  | image =>
      cases bound : payload.binding tag.tag.identifier with
      | missing | scalar | asset | structured =>
          rw [bound] at binds
          cases binds <;> rfl

theorem bindingReason?_fate : (tag.fate payload fetch).bindingReason? = tag.complaint? payload := by
  have binds := tag.binds payload
  unfold fate complaint?
  generalize tag.shape payload = shape at binds ⊢
  generalize payload.binding tag.tag.identifier = binding at binds ⊢
  cases tag.tag.kind with
  | text => cases binds <;> rfl
  | image =>
      cases binds with
      | nothing | structured => rfl
      | string locator | asset locator | scalars locator =>
          cases answer : fetch locator <;> simp only [answer] <;> rfl

theorem fetchReason?_fate_eq_outage? :
    (tag.fate payload fetch).fetchReason? = tag.outage? payload fetch := by
  rw [fetchReason?_fate, failure?, locator?_eq_asked?, outage?, Option.map_bind]
  congr 1
  funext locator
  cases answer : fetch locator <;> simp only [Function.comp_apply, answer] <;> rfl

/-- Text tags of any value are substituted. -/
theorem fate_eq_substituted_iff :
    tag.fate payload fetch = .substituted ↔
      tag.tag.kind = .text ∧ tag.shape payload ≠ .nothing := by
  have binds := tag.binds payload
  unfold fate
  generalize tag.shape payload = shape at binds ⊢
  generalize payload.binding tag.tag.identifier = binding at binds ⊢
  cases tag.tag.kind with
  | text => cases binds <;> simp
  | image =>
      cases binds with
      | nothing | structured => simp
      | string locator | asset locator | scalars locator =>
          cases answer : fetch locator <;> simp [answer]

end TagSpan

/-- The warnings of a document by the shapes of its values, those of its pictures last. -/
def Document.complaints (document : Document) (payload : Payload) (fetch : Fetcher) :
    List Warning :=
  (document.templates.flatMap fun template =>
    (scan template.2).malformed.map (MalformedSpan.warning template.1) ++
      (scan template.2).tags.filterMap fun tag =>
        (tag.complaint? payload).map (tag.warning template.1)) ++
  document.templates.flatMap fun template =>
    (scan template.2).tags.filterMap fun tag =>
      (tag.outage? payload fetch).map (tag.warning template.1)

theorem Document.warnings_eq_complaints (document : Document) (payload : Payload)
    (fetch : Fetcher) : document.warnings payload fetch = document.complaints payload fetch := by
  unfold warnings complaints partWarnings pictureWarnings
  simp only [TagSpan.bindingReason?_fate, TagSpan.fetchReason?_fate_eq_outage?]

/-- What takes the place of a tag by the shape of its value. The drawing of a picture that is asked
    for is left open. -/
def Suits (payload : Payload) (options : RenderOptions) (span : Markup) (tag : TagSpan)
    (filling : Markup) : Prop :=
  match tag.tag.kind, tag.shape payload with
  | _, .nothing | .image, .structured => filling = (Markup.elements span).flatten
  | .text, .located locator =>
    filling = Markup.ofValue locator.toList options.linebreaks ++ (Markup.elements span).flatten
  | .text, .scalars | .text, .structured =>
    ∃ value, (payload.binding tag.tag.identifier).text? = some value ∧
      filling = Markup.ofValue value.toList options.linebreaks ++ (Markup.elements span).flatten
  | .image, .located _ | .image, .scalars => (Markup.elements span).flatten <:+ filling

theorem suits_of_fills {payload : Payload} {options : RenderOptions} {fetch : Fetcher}
    {placements : List Placement} {span filling : Markup} {tag : TagSpan}
    (h : Fills payload options placements (fun tag picture => picture = tag.picture? payload fetch)
      span tag filling) : Suits payload options span tag filling := by
  have binds := tag.binds payload
  unfold Fills TagSpan.value? at h
  unfold Suits
  generalize tag.shape payload = shape at binds ⊢
  cases kind : tag.tag.kind with
  | text =>
      rw [kind] at h
      generalize payload.binding tag.tag.identifier = binding at binds h ⊢
      cases binds with
      | nothing | string | asset => exact h
      | scalars text | structured text => exact ⟨text, rfl, h⟩
  | image =>
      rw [kind] at h
      obtain ⟨picture, answered, filled⟩ := h
      rw [TagSpan.picture?] at answered
      generalize payload.binding tag.tag.identifier = binding at binds answered
      cases binds with
      | nothing | structured =>
          subst answered
          cases filled
          rfl
      | string | asset | scalars =>
          cases filled with
          | bare => exact List.suffix_rfl
          | drawn => exact List.suffix_append _ _

/-- What is asked for, warned of and written in a render is told by the shapes of the values. -/
structure FollowsShapes (document : Document) (payload : Payload) (options : RenderOptions)
    (fetch : Fetcher) : Prop where
  /-- Every tag that has a locator asks for it once. -/
  asked : fetchedLocators document payload options =
    document.tags.filterMap (TagSpan.asked? payload)
  warned : ∀ warnings, EndsWith (render document payload options fetch) warnings →
    warnings = document.complaints payload fetch
  substituted : ∀ report, render document payload options fetch = .ok report →
    report.statistics.textSubstituted =
      document.tags.countP fun tag => tag.tag.kind = .text ∧ tag.shape payload ≠ .nothing
  written : ∀ report, render document payload options fetch = .ok report →
    ∃ output, filledDocument document payload options fetch = .ok output ∧
      output.pack = .ok report.bytes ∧
      ∀ name ∈ document.templateNames, ∃ source text, document.markup? name = some source ∧
        output.markup? name = some text ∧
        Spliced (Suits payload options) 0 source (scan source).tags text

section Rendering

variable {document : Document} {payload : Payload} {options : RenderOptions} {draft : Draft}

theorem fetchedLocators_eq_asked (made : Draft.make document payload options = .ok draft) :
    fetchedLocators document payload options =
      document.tags.filterMap (TagSpan.asked? payload) := by
  rw [fetchedLocators_of_make made, Draft.locators_of_make made, Document.locators]
  exact List.filterMap_congr fun tag _ => tag.locator?_eq_asked? payload

/-- The shapes of the values alone decide what becomes of the tags of a template that can be
    read. -/
theorem render_follows_shapes (made : Draft.make document payload options = .ok draft)
    (fetch : Fetcher) : FollowsShapes document payload options fetch where
  asked := fetchedLocators_eq_asked made
  warned warnings ends := (warnings_of_endsWith ends).trans (document.warnings_eq_complaints ..)
  substituted report rendered := by
    have counted : report.statistics.textSubstituted =
        document.tags.countP fun tag => tag.fate payload fetch = .substituted :=
      statistics_of_render rendered ▸
        document.sum_substitutedCount_plans payload options.linebreaks fetch
    simpa only [TagSpan.fate_eq_substituted_iff] using counted
  written report rendered := by
    obtain ⟨output, placements, embedding, filled, packed, -, -, -, parts⟩ :=
      exists_placements_of_render rendered
    refine ⟨output, filled, packed, fun name listed => ?_⟩
    obtain ⟨source, block, text, there, part⟩ := parts name listed
    obtain ⟨pieces, fits, written⟩ := part.written
    exact ⟨source, text, there, part.text,
      (spliced_of_written fits written).mono fun _ _ _ => suits_of_fills⟩

end Rendering

/-- The tags of a template with values of several shapes follow them. -/
theorem render_follows_shapes_mixed :
    Sample.mixed.tags.map (TagSpan.shape Sample.mixedPayload) =
        [.located "Ada\nB.", .located "logo", .nothing, .structured, .located "lost"] ∧
      ∃ draft, Draft.make Sample.mixed Sample.mixedPayload {} = .ok draft ∧
        FollowsShapes Sample.mixed Sample.mixedPayload {} Sample.fetch := by
  obtain ⟨report, rendered⟩ := Sample.exists_mixed_report
  obtain ⟨draft, made, -⟩ := exists_draft_of_render rendered
  exact ⟨by decide +kernel, draft, made, render_follows_shapes made Sample.fetch⟩

namespace Sample

/-- A number, a truth value and a list of strings where pictures are asked for. -/
def scalarPayload : Payload :=
  { fields :=
      [("logo", .number (.whole 42)), ("seal", .bool true),
       ("gone", .array [.string "a", .string "b"])] }

end Sample

/-- Values that locate no picture are fetched all the same, and none of them is warned of as such. -/
theorem render_asks_for_scalars :
    Sample.document.tags.map (TagSpan.shape Sample.scalarPayload) =
        [.nothing, .scalars, .scalars, .scalars] ∧
      fetchedLocators Sample.document Sample.scalarPayload {} = ["42", "true", "a, b"] ∧
      ∃ report, render Sample.document Sample.scalarPayload {} Sample.fetch = .ok report ∧
        ∀ warning ∈ report.warnings, warning.reason ≠ .notAnAsset := by
  obtain ⟨report, rendered⟩ :
      ∃ report, render Sample.document Sample.scalarPayload {} Sample.fetch = .ok report :=
    exists_report rfl (by decide +kernel)
  have ends : EndsWith (render Sample.document Sample.scalarPayload {} Sample.fetch)
      report.warnings := rendered ▸ .report report
  refine ⟨by decide +kernel, by decide +kernel, report, rendered, ?_⟩
  rw [warnings_of_endsWith ends]
  decide +kernel

end Stencil
