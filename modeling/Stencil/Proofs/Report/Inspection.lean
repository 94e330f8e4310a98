import Stencil.Proofs.Report.Reasons
import Stencil.Report.Inspection

/-! # What inspections foretell

An inspection lists the tags that a render counts and the malformed spans that it warns of, part by
part, and it fails of the same part as a render that fails before anything is fetched.

Main statement: `inspection_foretells_render`.
-/

namespace Stencil

namespace Occurrence

/-- A warning of the occurrence. -/
def warning (occurrence : Occurrence) (reason : WarningReason) : Warning :=
  { identifier := occurrence.identifier, raw := occurrence.raw, part := occurrence.part, reason }

/-- The warning of an occurrence that is no tag. -/
def malformedWarning? (occurrence : Occurrence) : Option Warning :=
  occurrence.malformed.map fun detail => occurrence.warning (.malformed detail)

/-- What is in order already keeps its order when it is sorted among others. -/
private theorem filter_map_mergeSort {α : Type} {entries chosen : List (Nat × α)} {p : α → Bool}
    (among : entries.filter (p ∘ Prod.snd) = chosen)
    (sorted : (chosen.map Prod.fst).Pairwise (· < ·)) :
    ((entries.mergeSort fun one other => decide (one.1 ≤ other.1)).map Prod.snd).filter p =
      chosen.map Prod.snd := by
  have ordered : chosen.Pairwise fun one other => decide (one.1 ≤ other.1) :=
    (List.pairwise_map.mp sorted).imp fun follow => decide_eq_true (Nat.le_of_lt follow)
  subst among
  have kept := List.sublist_mergeSort (by simp only [decide_eq_true_eq]; omega)
    (by simp only [Bool.or_eq_true, decide_eq_true_eq]; omega) ordered List.filter_sublist
  have within := kept.filter (p ∘ Prod.snd)
  simp only [List.filter_filter, Bool.and_self] at within
  rw [List.filter_map, within.eq_of_length ((List.mergeSort_perm entries _).filter _).length_eq.symm]

variable (part : String) (source : Markup)

/-- The malformed occurrences of a source are its malformed spans. -/
theorem filter_isMalformed_inSource :
    (inSource part source).filter isMalformed =
      (scan source).malformed.map (ofMalformed part) := by
  let tags := (scan source).tags.map fun span => (span.start, ofTag part span)
  let malformed := (scan source).malformed.map fun span => (span.start, ofMalformed part span)
  have among : (tags ++ malformed).filter (isMalformed ∘ Prod.snd) = malformed := by
    rw [List.filter_append, List.filter_eq_nil_iff.mpr, List.filter_eq_self.mpr, List.nil_append]
    · exact List.forall_mem_map.mpr fun span _ => rfl
    · exact List.forall_mem_map.mpr fun span _ => Bool.false_ne_true
  have sorted : (malformed.map Prod.fst).Pairwise (· < ·) := by
    rw [List.map_map]
    exact Scan.malformed_pairwise source
  rw [inSource, filter_map_mergeSort among sorted, List.map_map]
  rfl

/-- The other occurrences of a source are its tags. -/
theorem filter_not_isMalformed_inSource :
    (inSource part source).filter (fun occurrence => !occurrence.isMalformed) =
      (scan source).tags.map (ofTag part) := by
  let tags := (scan source).tags.map fun span => (span.start, ofTag part span)
  let malformed := (scan source).malformed.map fun span => (span.start, ofMalformed part span)
  have among : (tags ++ malformed).filter ((fun occurrence => !occurrence.isMalformed) ∘ Prod.snd) = tags := by
    rw [List.filter_append, List.filter_eq_self.mpr, List.filter_eq_nil_iff.mpr, List.append_nil]
    · exact List.forall_mem_map.mpr fun span _ => Bool.false_ne_true
    · exact List.forall_mem_map.mpr fun span _ => rfl
  have sorted : (tags.map Prod.fst).Pairwise (· < ·) := by
    rw [List.map_map]
    exact Scan.tags_pairwise source
  rw [inSource, filter_map_mergeSort among sorted, List.map_map]
  rfl

end Occurrence

section Inspecting

variable {document : Document} {payload : Payload} {options : RenderOptions} {fetch : Fetcher}

/-- A successful inspection lists what the templates have, part by part. -/
theorem eq_flatMap_of_inspect {occurrences : List Occurrence}
    (inspected : inspect document = .ok occurrences) :
    occurrences = document.templates.flatMap fun template =>
      Occurrence.inSource template.1 template.2 := by
  have listed {names : List String} {lists : List (List Occurrence)}
      (read : names.mapM (inspectPart document) = .ok lists) :
      lists = (names.filterMap fun name => (document.markup? name).map fun source =>
        (name, source)).map fun template => Occurrence.inSource template.1 template.2 := by
    induction names generalizing lists with
    | nil =>
        cases read
        rfl
    | cons name rest ih =>
        rw [List.mapM_cons, inspectPart] at read
        cases found : document.markup? name with
        | none =>
            rw [found] at read
            cases read
        | some source =>
            rw [found] at read
            cases later : rest.mapM (inspectPart document) with
            | error error =>
                rw [later] at read
                cases read
            | ok others =>
                rw [later] at read
                cases read
                rw [List.filterMap_cons, found, ih later]
                rfl
  unfold inspect at inspected
  cases required : document.require PartName.required with
  | error error =>
      rw [required] at inspected
      cases inspected
  | ok _ =>
      rw [required] at inspected
      cases read : document.templateNames.mapM (inspectPart document) with
      | error error =>
          simp only [read] at inspected
          cases inspected
      | ok lists =>
          simp only [read] at inspected
          cases inspected
          rw [listed read, List.flatMap_def]
          rfl

/-- The malformed occurrences of a document are its malformed spans. -/
theorem filter_isMalformed_of_inspect {occurrences : List Occurrence}
    (inspected : inspect document = .ok occurrences) :
    occurrences.filter Occurrence.isMalformed =
      document.templates.flatMap fun template =>
        (scan template.2).malformed.map (Occurrence.ofMalformed template.1) := by
  rw [eq_flatMap_of_inspect inspected, List.filter_flatMap]
  exact List.flatMap_congr fun template _ =>
    Occurrence.filter_isMalformed_inSource template.1 template.2

/-- The other occurrences of a document are its tags. -/
theorem filter_not_isMalformed_of_inspect {occurrences : List Occurrence}
    (inspected : inspect document = .ok occurrences) :
    occurrences.filter (fun occurrence => !occurrence.isMalformed) =
      document.templates.flatMap fun template =>
        (scan template.2).tags.map (Occurrence.ofTag template.1) := by
  rw [eq_flatMap_of_inspect inspected, List.filter_flatMap]
  exact List.flatMap_congr fun template _ =>
    Occurrence.filter_not_isMalformed_inSource template.1 template.2

/-- An identifier is listed exactly when an occurrence that is a tag has it. -/
theorem mem_identifiers {occurrences : List Occurrence} {identifier : String} :
    identifier ∈ identifiers occurrences ↔
      ∃ occurrence ∈ occurrences.filter fun occurrence => !occurrence.isMalformed,
        occurrence.identifier = identifier := by
  have gathered (names found : List String) :
      identifier ∈ names.foldl (fun found name =>
          if found.contains name then found else found ++ [name]) found ↔
        identifier ∈ found ∨ identifier ∈ names := by
    induction names generalizing found with
    | nil => simp
    | cons name rest ih =>
        rw [List.foldl_cons, ih, List.mem_cons]
        split
        · next there =>
          have there : name ∈ found := List.contains_iff_mem.mp there
          refine ⟨Or.imp_right .inr, ?_⟩
          rintro (earlier | rfl | later)
          · exact .inl earlier
          · exact .inl there
          · exact .inr later
        · rw [List.mem_append, List.mem_singleton, or_assoc]
  rw [identifiers, gathered, List.mem_map]
  exact or_iff_right List.not_mem_nil

/-- The identifiers that an inspection lists are those of the tags of the templates. -/
theorem mem_identifiers_iff_exists_tag {occurrences : List Occurrence}
    (inspected : inspect document = .ok occurrences) {identifier : String} :
    identifier ∈ identifiers occurrences ↔
      ∃ tag ∈ document.tags, tag.tag.identifier = identifier := by
  rw [mem_identifiers, filter_not_isMalformed_of_inspect inspected]
  simp only [List.mem_flatMap, List.mem_map, Document.tags]
  constructor
  · rintro ⟨_, ⟨template, there, tag, tagged, rfl⟩, same⟩
    exact ⟨tag, ⟨template, there, tagged⟩, same⟩
  · rintro ⟨tag, ⟨template, there, tagged⟩, same⟩
    exact ⟨_, ⟨template, there, tag, tagged, rfl⟩, same⟩

end Inspecting

/-- An inspection and a planning that both succeed, or that fail of one part: it is missing for
    both, or none of them can read it. -/
inductive Concur {α β : Type} : Except PackageError α → Except RenderError β → Prop where
  | missing (part : String) :
      Concur (.error (.missingPart part)) (.error (.package (.missingPart part)))
  | unreadable (part : String) (warnings : List Warning) :
      Concur (.error (.unreadablePart part notMarkup)) (.error (.unreadablePart part warnings))
  | ok (found : α) (planned : β) : Concur (.ok found) (.ok planned)

namespace Concur

theorem bind_ok {α β γ δ : Type} {inspected : Except PackageError α}
    {planned : Except RenderError β} (h : Concur inspected planned) (f : α → γ) (g : β → δ) :
    Concur (inspected >>= fun found => .ok (f found)) (planned >>= fun plan => .ok (g plan)) := by
  cases h with
  | missing part => exact .missing part
  | unreadable part warnings => exact .unreadable part warnings
  | ok found plan => exact .ok (f found) (g plan)

variable {document : Document} {payload : Payload} {options : RenderOptions}

/-- Parts are read one after the other by either, so the first that cannot be read stops both. -/
theorem planParts (linebreaks : Bool) (earlier : List Warning) (names : List String) :
    Concur (names.mapM (inspectPart document))
      (Draft.planParts document payload linebreaks earlier names) := by
  induction names generalizing earlier with
  | nil => exact .ok _ _
  | cons name rest ih =>
      rw [List.mapM_cons, inspectPart, Draft.planParts]
      cases document.markup? name with
      | none => exact .unreadable name earlier
      | some source => exact (ih _).bind_ok _ _

/-- An inspection fails exactly when nothing can be planned. -/
theorem inspect (types : ∀ content, document.content? PartName.contentTypes = some content →
      ∃ text, content = .markup text) :
    Concur (Stencil.inspect document) (Draft.make document payload options) := by
  unfold Stencil.inspect Draft.make
  cases missing : PartName.required.find? fun name => !document.contains name with
  | some part =>
      rw [Document.require, missing]
      exact .missing part
  | none =>
      have there : document.contains PartName.contentTypes = true := by
        simpa using List.find?_eq_none.mp missing PartName.contentTypes List.mem_cons_self
      rw [Document.contains_eq_isSome, Option.isSome_iff_exists] at there
      obtain ⟨content, found⟩ := there
      obtain ⟨text, rfl⟩ := types content found
      rw [Document.require, missing, Document.markup?_of_content? found]
      exact (planParts options.linebreaks [] document.templateNames).bind_ok _ _

end Concur

/-- What an inspection tells of a render with a payload: how many tags it finds, and which warnings
    it ends with. -/
structure Foretells (occurrences : List Occurrence) (payload : Payload)
    (rendered : Except RenderError Report) : Prop where
  found : ∀ report, rendered = .ok report →
    report.statistics.tagsFound = occurrences.countP fun occurrence => !occurrence.isMalformed
  malformed : ∀ warnings, EndsWith rendered warnings →
    warnings.filter (fun warning => warning.reason.isMalformed) =
      occurrences.filterMap Occurrence.malformedWarning?
  unbound : payload.fields = [] → ∀ warnings, EndsWith rendered warnings →
    warnings.filter (fun warning => warning.reason = .unresolved) =
      (occurrences.filter fun occurrence => !occurrence.isMalformed).map fun occurrence =>
        occurrence.warning .unresolved
  bound : (∀ identifier ∈ identifiers occurrences, ∃ value,
      payload.value? identifier = some value ∧ value ≠ .null ∧ value ≠ .array []) →
    ∀ warnings, EndsWith rendered warnings → ∀ warning ∈ warnings, warning.reason ≠ .unresolved

section Foretelling

variable {document : Document} {occurrences : List Occurrence}

/-- A value other than null and the empty list binds an identifier to something. -/
theorem Binding.ofJson_ne_missing {value : Json} (present : value ≠ .null) (filled : value ≠ .array []) :
    Binding.ofJson value ≠ .missing := by
  unfold Binding.ofJson
  split
  · exact absurd rfl present
  · exact absurd rfl filled
  · nofun
  · nofun
  · nofun
  · split <;> nofun
  · split
    · nofun
    · split <;> nofun

theorem filterMap_malformedWarning?_of_inspect (inspected : inspect document = .ok occurrences) :
    occurrences.filterMap Occurrence.malformedWarning? =
      document.templates.flatMap fun template =>
        (scan template.2).malformed.map (MalformedSpan.warning template.1) := by
  have chosen : occurrences.filterMap Occurrence.malformedWarning? =
      (occurrences.filter Occurrence.isMalformed).filterMap Occurrence.malformedWarning? := by
    rw [List.filterMap_filter]
    refine List.filterMap_congr fun occurrence _ => ?_
    rw [Occurrence.malformedWarning?, Occurrence.isMalformed]
    cases occurrence.malformed <;> rfl
  rw [chosen, filter_isMalformed_of_inspect inspected, List.filterMap_flatMap]
  refine List.flatMap_congr fun template _ => ?_
  rw [List.filterMap_map, ← List.filterMap_eq_map]
  rfl

/-- What is found in a document is foretold of every render. -/
theorem foretells_of_inspect (inspected : inspect document = .ok occurrences) (payload : Payload)
    (options : RenderOptions) (fetch : Fetcher) :
    Foretells occurrences payload (render document payload options fetch) := by
  have tags := filter_not_isMalformed_of_inspect inspected
  constructor
  case found =>
    intro report rendered
    rw [tagsFound_of_render rendered, List.countP_eq_length_filter, tags, Document.tags,
      List.length_flatMap, List.length_flatMap]
    simp only [List.length_map]
  case malformed =>
    intro warnings ends
    rw [warnings_of_endsWith ends, Document.filter_isMalformed_warnings,
      filterMap_malformedWarning?_of_inspect inspected]
  case unbound =>
    intro empty warnings ends
    have missing (identifier : String) : payload.binding identifier = .missing := by
      rw [Payload.binding, Payload.value?, empty]
      rfl
    rw [warnings_of_endsWith ends, Document.filter_unresolved_warnings, tags, List.map_flatMap]
    refine List.flatMap_congr fun template _ => ?_
    simp only [missing, decide_true, List.filter_true, List.map_map]
    rfl
  case bound =>
    intro bound warnings ends warning mem unresolved
    have listed : warning ∈ warnings.filter fun warning => warning.reason = .unresolved :=
      List.mem_filter.mpr ⟨mem, decide_eq_true unresolved⟩
    rw [warnings_of_endsWith ends, Document.filter_unresolved_warnings, List.mem_flatMap] at listed
    obtain ⟨template, there, listed⟩ := listed
    obtain ⟨tag, chosen, -⟩ := List.mem_map.mp listed
    obtain ⟨tagged, missing⟩ := List.mem_filter.mp chosen
    have tagged : tag ∈ document.tags := List.mem_flatMap.mpr ⟨template, there, tagged⟩
    obtain ⟨value, found, present, filled⟩ := bound tag.tag.identifier
      ((mem_identifiers_iff_exists_tag inspected).mpr ⟨tag, tagged, rfl⟩)
    refine Binding.ofJson_ne_missing present filled ?_
    have binding := of_decide_eq_true missing
    rwa [Payload.binding, found] at binding

/-- An inspection fails of a part exactly when a render fails of it before anything is fetched, and
    what it finds otherwise is what renders count and warn of. -/
theorem inspection_foretells_render (document : Document)
    (types : ∀ content, document.content? PartName.contentTypes = some content →
      ∃ text, content = .markup text)
    (payload : Payload) (options : RenderOptions) (fetch : Fetcher) :
    Concur (inspect document) (Draft.make document payload options) ∧
    (∀ error, Draft.make document payload options = .error error →
      render document payload options fetch = .error error) ∧
    ∀ occurrences, inspect document = .ok occurrences →
      Foretells occurrences payload (render document payload options fetch) :=
  ⟨.inspect types, fun _ failed => render_eq_error failed fetch,
    fun _ inspected => foretells_of_inspect inspected payload options fetch⟩

end Foretelling

namespace Sample

theorem exists_mixed_inspection : ∃ occurrences, inspect mixed = .ok occurrences := by
  have inspected : (inspect mixed).isOk = true := by decide +kernel
  cases found : inspect mixed with
  | error error =>
      rw [found] at inspected
      cases inspected
  | ok occurrences => exact ⟨occurrences, rfl⟩

end Sample

/-- The inspection of a template with tags of every fate foretells its report. -/
theorem inspection_foretells_render_mixed :
    ∃ occurrences report, inspect Sample.mixed = .ok occurrences ∧
      render Sample.mixed Sample.mixedPayload {} Sample.fetch = .ok report ∧
      Foretells occurrences Sample.mixedPayload
        (render Sample.mixed Sample.mixedPayload {} Sample.fetch) ∧
      (occurrences.countP fun occurrence => !occurrence.isMalformed) = 5 := by
  have types : Sample.mixed.content? PartName.contentTypes =
      some (.markup "<Types></Types>".toList) := rfl
  obtain ⟨-, -, foretold⟩ := inspection_foretells_render Sample.mixed
    (fun content found => ⟨_, Option.some.inj (found.symm.trans types)⟩) Sample.mixedPayload {}
    Sample.fetch
  obtain ⟨occurrences, inspected⟩ := Sample.exists_mixed_inspection
  obtain ⟨report, rendered⟩ := Sample.exists_mixed_report
  have foretells := foretold occurrences inspected
  refine ⟨occurrences, report, inspected, rendered, foretells, ?_⟩
  rw [← foretells.found report rendered, tagsFound_of_render rendered]
  decide +kernel

end Stencil
