import Stencil.Proofs.Report.Inspection

/-! # What a payload can influence

A plan asks the payload for the identifiers of its tags and for nothing else, and what a tag is
replaced by is never scanned again. Payloads that agree on the identifiers that an inspection lists
have the same reports.

Main statement: `render_of_agreeing`.
-/

namespace Stencil

/-- Two payloads with the same values, or with none, for identifiers. -/
def Payload.AgreeOn (identifiers : List String) (payload payload' : Payload) : Prop :=
  ∀ identifier ∈ identifiers, payload.value? identifier = payload'.value? identifier

theorem Payload.AgreeOn.binding_eq {identifiers : List String} {payload payload' : Payload}
    (agree : AgreeOn identifiers payload payload') {identifier : String}
    (mem : identifier ∈ identifiers) : payload.binding identifier = payload'.binding identifier := by
  rw [Payload.binding, Payload.binding, agree identifier mem]

variable {document : Document} {payload payload' : Payload}

/-- The plan of a part depends on what its own tags are bound to. -/
theorem PartPlan.make_congr {source : Markup}
    (same : ∀ tag ∈ (scan source).tags,
      payload.binding tag.tag.identifier = payload'.binding tag.tag.identifier)
    (linebreaks : Bool) (name : String) :
    make payload linebreaks name source = make payload' linebreaks name source := by
  have pieces : (scan source).segments.map (pieceOf name payload linebreaks) =
      (scan source).segments.map (pieceOf name payload' linebreaks) := by
    refine List.map_congr_left fun segment mem => ?_
    cases segment with
    | literal text => rfl
    | tag tag =>
        have tagged : tag ∈ (scan source).tags := List.mem_filterMap.mpr ⟨_, mem, rfl⟩
        rw [pieceOf, pieceOf, pieceOfTag, pieceOfTag, same tag tagged]
  have warnings : (scan source).tags.filterMap (bindingWarning? name payload) =
      (scan source).tags.filterMap (bindingWarning? name payload') := by
    refine List.filterMap_congr fun tag tagged => ?_
    rw [bindingWarning?, bindingWarning?, same tag tagged]
  rw [make, make, pieces, warnings]

namespace Draft

theorem planParts_congr (names : List String)
    (same : ∀ name ∈ names, ∀ source, document.markup? name = some source →
      ∀ tag ∈ (scan source).tags,
        payload.binding tag.tag.identifier = payload'.binding tag.tag.identifier)
    (linebreaks : Bool) (earlier : List Warning) :
    planParts document payload linebreaks earlier names =
      planParts document payload' linebreaks earlier names := by
  induction names generalizing earlier with
  | nil => rfl
  | cons name rest ih =>
      rw [List.forall_mem_cons] at same
      rw [planParts, planParts]
      cases found : document.markup? name with
      | none => rfl
      | some source =>
          simp only [PartPlan.make_congr (same.1 source found), ih same.2]

/-- What is planned depends on what the tags of the templates are bound to. -/
theorem make_congr
    (same : ∀ tag ∈ document.tags,
      payload.binding tag.tag.identifier = payload'.binding tag.tag.identifier)
    (options : RenderOptions) :
    Draft.make document payload options = Draft.make document payload' options := by
  have planned := planParts_congr document.templateNames
    (fun name mem source found tag tagged => same tag (List.mem_flatMap.mpr
      ⟨(name, source), List.mem_filterMap.mpr ⟨name, mem, by rw [found]; rfl⟩, tagged⟩))
    options.linebreaks []
  rw [Draft.make, Draft.make, planned]

end Draft

/-- Payloads that agree on the identifiers of a template have the same outcome: the same error with
    the same warnings, or the same report; and the same pictures are fetched. -/
theorem render_of_agreeing {occurrences : List Occurrence}
    (inspected : inspect document = .ok occurrences)
    (agree : payload.AgreeOn (identifiers occurrences) payload') (options : RenderOptions)
    (fetch : Fetcher) :
    render document payload options fetch = render document payload' options fetch ∧
      fetchedLocators document payload options = fetchedLocators document payload' options := by
  have planned := Draft.make_congr (fun tag mem =>
    agree.binding_eq ((mem_identifiers_iff_exists_tag inspected).mpr ⟨tag, mem, rfl⟩)) options
  exact ⟨by rw [render, render, planned], by rw [fetchedLocators, fetchedLocators, planned]⟩

/-- A key that the template with tags of every fate does not use leaves its report as it is. -/
theorem render_of_agreeing_mixed :
    let more : Payload := { fields := ("unused", .bool true) :: Sample.mixedPayload.fields }
    (more.value? "unused").isSome ∧ (Sample.mixedPayload.value? "unused").isSome = false ∧
      render Sample.mixed more {} Sample.fetch =
        render Sample.mixed Sample.mixedPayload {} Sample.fetch := by
  intro more
  obtain ⟨occurrences, inspected⟩ := Sample.exists_mixed_inspection
  have agree : more.AgreeOn (identifiers occurrences) Sample.mixedPayload := by
    intro identifier listed
    obtain ⟨tag, mem, rfl⟩ := (mem_identifiers_iff_exists_tag inspected).mp listed
    have used : ∀ tag ∈ Sample.mixed.tags, (tag.tag.identifier == "unused") = false := by
      decide +kernel
    rw [Payload.value?, List.lookup_cons, used tag mem]
    rfl
  exact ⟨rfl, rfl, (render_of_agreeing inspected agree {} Sample.fetch).1⟩

end Stencil
