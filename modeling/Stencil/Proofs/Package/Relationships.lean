import Stencil.Package.Relationships
import Stencil.Proofs.Markup.Attribute
import Stencil.Proofs.Markup.Escape
import Stencil.Proofs.Text.Occurrences

/-! # Relationships with one more picture

An added picture is declared by one element, and every identifier that was declared before is
declared as often as before.
-/

namespace Stencil.Relationships

/-- How an element names its identifier. -/
def idAttribute (id : List Char) : Markup :=
  "Id=\"".toList ++ id ++ ['\x22']

/-- Whether one more element finds a place in the relationships. -/
def Extendable (markup : Markup) : Prop :=
  rootEnd <:+: markup ∨ ['/', '>'] <:+: markup

/-- The name of the part that a target refers to: from the root, or from the folder of the part
    that the relationships belong to. -/
def resolve (part : String) (target : List Char) : List Char :=
  match target with
  | '/' :: name => name
  | _ =>
    match PartName.splitFolder? part.toList with
    | some (folder, _) => folder ++ '/' :: target
    | none => target

/-- An element that has the identifier and refers to a picture by the target, as it is read. -/
structure RefersToPicture (element : Markup) (id target : List Char) : Prop where
  carried : idAttribute id <:+: element
  identified : Markup.valueIn? "Relationship" "Id" element = some id
  typed : Markup.valueIn? "Relationship" "Type" element = some imageType
  aimed : Markup.valueIn? "Relationship" "Target" element = some target

/-- Whether one element alone has the identifier, and refers to a picture by the target. -/
structure Declares (markup : Markup) (id target : List Char) : Prop where
  once : Text.occurrences (idAttribute id) markup = 1
  element : ∃ element ∈ Markup.elements markup, RefersToPicture element id target

theorem idAttribute_eq (id : List Char) :
    idAttribute id = "Id=".toList ++ '\x22' :: id ++ ['\x22'] := rfl

theorem hasId_eq_false {markup : Markup} {id : List Char} :
    hasId markup id = false ↔ Text.occurrences (idAttribute id) markup = 0 := by
  rw [Text.occurrences_eq_zero, ← Text.occurs_iff, Bool.not_eq_true]
  rfl

theorem not_mem_idAttribute {id : List Char} (plain : ∀ c ∈ id, c.isAlphanum) {c : Char}
    (h : c ∈ [' ', '/', '<', '>']) : c ∉ idAttribute id := by
  have fixed : ∀ c ∈ [' ', '/', '<', '>'],
      c ∉ "Id=\"".toList ∧ c ≠ '\x22' ∧ c.isAlphanum = false :=
    List.all_iff_forall_prop.mp (by decide)
  obtain ⟨lead, quote, other⟩ := fixed c h
  simp only [idAttribute, List.mem_append, List.mem_singleton, not_or]
  refine ⟨⟨lead, fun mem => ?_⟩, quote⟩
  rw [plain c mem] at other
  cases other

private theorem occurrences_of_lead {id : List Char} {text : Markup}
    (absent : Text.occurrences "Id=\"".toList text = 0) :
    Text.occurrences (idAttribute id) text = 0 :=
  Text.occurrences_of_infix ⟨[], id ++ ['\x22'], by simp [idAttribute]⟩ absent

/-- The element of a picture, cut at its blanks. -/
private theorem imageElement_eq {id : List Char} (plain : ∀ c ∈ id, c.isAlphanum)
    (target : List Char) :
    imageElement id target = "<Relationship".toList ++ ' ' ::
      (("Id=".toList ++ '\x22' :: id ++ '\x22' :: []) ++ ' ' ::
        (("Type=\"".toList ++ imageType ++ ['\x22']) ++ ' ' ::
          ("Target=".toList ++ '\x22' :: Markup.escape target ++ '\x22' :: "/>".toList))) := by
  have opening : "<Relationship Id=\"".toList =
      "<Relationship".toList ++ ' ' :: ("Id=".toList ++ ['\x22']) := rfl
  have typed : "\" Type=\"".toList = '\x22' :: ' ' :: "Type=\"".toList := rfl
  have aimed : "\" Target=\"".toList = '\x22' :: ' ' :: ("Target=".toList ++ ['\x22']) := rfl
  have closing : "\"/>".toList = '\x22' :: "/>".toList := rfl
  unfold imageElement
  simp only [Markup.escape_of_isAlphanum plain, opening, typed, aimed, closing,
    List.append_assoc, List.cons_append, List.nil_append]

theorem imageElement_eq_emptyTag (id target : List Char) :
    imageElement id target = Markup.emptyTag "Relationship" [("Id", Markup.escape id),
      ("Type", imageType), ("Target", Markup.escape target)] := by
  have opening : "<Relationship Id=\"".toList =
      '<' :: "Relationship".toList ++ ' ' :: "Id".toList ++ ['=', '\x22'] := by decide
  have typed : "\" Type=\"".toList = '\x22' :: ' ' :: "Type".toList ++ ['=', '\x22'] := by decide
  have aimed : "\" Target=\"".toList = '\x22' :: ' ' :: "Target".toList ++ ['=', '\x22'] := by decide
  have closing : "\"/>".toList = ['\x22', '/', '>'] := rfl
  unfold imageElement
  generalize imageType = type
  rw [opening, typed, aimed, closing]
  simp only [Markup.emptyTag, Markup.attributes, Markup.attributeText, List.flatMap_cons,
    List.flatMap_nil, List.append_assoc, List.cons_append, List.nil_append]

/-- The element of a picture is read as one that refers to it. -/
theorem refersToPicture_imageElement {id : List Char} (plain : ∀ c ∈ id, c.isAlphanum)
    (target : List Char) :
    RefersToPicture (imageElement id target) id (Markup.escape target) := by
  have readable : Markup.ReadableAttributes
      [("Id", id), ("Type", imageType), ("Target", Markup.escape target)] :=
    .cons (by decide) (fun mem => absurd (plain _ mem) (by decide)) <|
      .cons (by decide) (by decide) <|
      .cons (by decide) (Markup.not_mem_escape (by decide)) (by decide)
  have named : Markup.IsTagName "Relationship" := by decide
  constructor
  case carried =>
    refine ⟨"<Relationship ".toList, " Type=\"".toList ++ imageType ++ ['\x22'] ++ ' ' ::
      ("Target=".toList ++ '\x22' :: Markup.escape target ++ '\x22' :: "/>".toList), ?_⟩
    rw [imageElement_eq plain, idAttribute_eq]
    simp
  all_goals
    rw [imageElement_eq_emptyTag, Markup.escape_of_isAlphanum plain,
      Markup.valueIn?_emptyTag named readable]
    rfl

/-- The element of a picture has its own identifier and no other. -/
theorem occurrences_imageElement {id other : List Char} (plain : ∀ c ∈ id, c.isAlphanum)
    (plain' : ∀ c ∈ other, c.isAlphanum) (target : List Char) :
    Text.occurrences (idAttribute id) (imageElement other target) = if id = other then 1 else 0 := by
  have blank : ' ' ∉ idAttribute id := not_mem_idAttribute plain (by decide)
  have quoteless {text : List Char} (h : ∀ c ∈ text, c.isAlphanum) : '\x22' ∉ text := fun mem =>
    absurd (h _ mem) (by decide)
  have id_free : '\x22' ∉ "Id=".toList := by decide
  have named : Text.occurrences (idAttribute id) ("Id=".toList ++ '\x22' :: other ++ '\x22' :: []) =
      if id = other then 1 else 0 := by
    have quoted := Text.occurrences_quoted "Id=".toList other [] id_free (quoteless plain) id_free
      (quoteless plain') List.not_mem_nil
    simpa only [List.suffix_refl, true_and, ← idAttribute_eq] using quoted
  have typed : Text.occurrences (idAttribute id) ("Type=\"".toList ++ imageType ++ ['\x22']) = 0 :=
    occurrences_of_lead (by decide +kernel)
  have aimed : Text.occurrences (idAttribute id)
      ("Target=".toList ++ '\x22' :: Markup.escape target ++ '\x22' :: "/>".toList) = 0 := by
    have quoted := Text.occurrences_quoted "Target=".toList (Markup.escape target) "/>".toList id_free
      (quoteless plain) (by decide) (Markup.not_mem_escape (by decide)) (by decide)
    rwa [if_neg fun same => absurd same.1 (by decide)] at quoted
  have opening : Text.occurrences (idAttribute id) "<Relationship".toList = 0 :=
    occurrences_of_lead (by decide +kernel)
  rw [imageElement_eq plain', Text.occurrences_append_cons blank, Text.occurrences_append_cons blank,
    Text.occurrences_append_cons blank, opening, named, typed, aimed]
  omega

private theorem rootEnd_eq : rootEnd = '<' :: ("/Relationships".toList ++ ['>']) := rfl

theorem isElement_rootEnd : Markup.IsElement rootEnd :=
  ⟨"/Relationships".toList, by decide, rfl⟩

/-- One more picture stands between two parts of the relationships: before an end tag that was
    there, or in a root that closed itself. -/
theorem addImage_of_extendable {markup : Markup} (h : Extendable markup) (id target : List Char) :
    (∃ before after, markup = before ++ rootEnd ++ after ∧
      addImage (some markup) id target = before ++ imageElement id target ++ (rootEnd ++ after)) ∨
    (∃ before after, markup = before ++ ['/', '>'] ++ after ∧ ¬ rootEnd <:+: markup ∧
      addImage (some markup) id target =
        before ++ ['>'] ++ imageElement id target ++ (rootEnd ++ after)) := by
  rw [addImage]
  cases closed : Text.cutLast? rootEnd markup with
  | some cut =>
      refine .inl ⟨cut.1, cut.2, (Text.append_of_cutLast? closed).symm, ?_⟩
      simp only [List.append_assoc]
  | none =>
      have unclosed := Text.not_infix_of_cutLast? closed
      cases slash : Text.cutLast? ['/', '>'] markup with
      | some cut =>
          refine .inr ⟨cut.1, cut.2, (Text.append_of_cutLast? slash).symm, unclosed, ?_⟩
          simp only [List.append_assoc, List.cons_append, List.nil_append]
      | none => exact absurd h (not_or.mpr ⟨unclosed, Text.not_infix_of_cutLast? slash⟩)

/-- A new part has text without identifiers before the element of its picture. -/
theorem addImage_none : ∃ prologue, Text.occurrences "Id=\"".toList prologue = 0 ∧
    ∀ id target, addImage none id target = prologue ++ imageElement id target ++ (rootEnd ++ []) := by
  refine ⟨"<?xml version=\"1.0\" encoding=\"UTF-8\" standalone=\"yes\"?>\n<Relationships xmlns=\"".toList ++
    rootNamespace ++ "\">".toList, by decide +kernel, ?_⟩
  intro id target
  exact congrArg (_ ++ ·) (List.append_nil rootEnd).symm

section Counting

variable {id : List Char}

private theorem occurrences_nil : Text.occurrences (idAttribute id) [] = 0 :=
  Text.occurrences_eq_zero.mpr (by simp [idAttribute_eq])

private theorem occurrences_ended (plain : ∀ c ∈ id, c.isAlphanum) (front after : Markup) :
    Text.occurrences (idAttribute id) (front ++ (rootEnd ++ after)) =
      Text.occurrences (idAttribute id) front + Text.occurrences (idAttribute id) after := by
  have rootless : Text.occurrences (idAttribute id) "/Relationships".toList = 0 :=
    occurrences_of_lead (by decide +kernel)
  rw [rootEnd_eq, List.cons_append, List.append_assoc,
    Text.occurrences_append_cons (not_mem_idAttribute plain (by decide)), List.singleton_append,
    Text.occurrences_append_cons (not_mem_idAttribute plain (by decide)), rootless, Nat.zero_add]

private theorem occurrences_append_imageElement (plain : ∀ c ∈ id, c.isAlphanum) (front : Markup)
    (other target : List Char) :
    Text.occurrences (idAttribute id) (front ++ imageElement other target) =
      Text.occurrences (idAttribute id) front +
        Text.occurrences (idAttribute id) (imageElement other target) := by
  have less : '<' ∉ idAttribute id := not_mem_idAttribute plain (by decide)
  obtain ⟨rest, starts⟩ : ∃ rest, imageElement other target = '<' :: rest := ⟨_, rfl⟩
  have alone := Text.occurrences_append_cons less [] rest
  rw [List.nil_append, occurrences_nil, Nat.zero_add] at alone
  rw [starts, Text.occurrences_append_cons less, alone]

/-- The identifiers of the relationships and those of the new element add up. -/
theorem occurrences_addImage {markup : Markup} (h : Extendable markup)
    (plain : ∀ c ∈ id, c.isAlphanum) (other target : List Char) :
    Text.occurrences (idAttribute id) (addImage (some markup) other target) =
      Text.occurrences (idAttribute id) markup +
        Text.occurrences (idAttribute id) (imageElement other target) := by
  rcases addImage_of_extendable h other target with
    ⟨before, after, whole, added⟩ | ⟨before, after, whole, -, added⟩
  · rw [added, whole, occurrences_ended plain, occurrences_append_imageElement plain,
      List.append_assoc, occurrences_ended plain]
    omega
  · have slash : '/' ∉ idAttribute id := not_mem_idAttribute plain (by decide)
    have greater : '>' ∉ idAttribute id := not_mem_idAttribute plain (by decide)
    have bare := Text.occurrences_append_cons greater [] after
    rw [List.nil_append, occurrences_nil] at bare
    rw [added, whole, occurrences_ended plain, occurrences_append_imageElement plain,
      List.append_assoc, List.cons_append, List.singleton_append,
      Text.occurrences_append_cons greater, Text.occurrences_append_cons slash, occurrences_nil, bare]
    omega

/-- A new part has the identifier of its one element. -/
theorem occurrences_create (plain : ∀ c ∈ id, c.isAlphanum) (other target : List Char) :
    Text.occurrences (idAttribute id) (addImage none other target) =
      Text.occurrences (idAttribute id) (imageElement other target) := by
  obtain ⟨prologue, nameless, created⟩ := addImage_none
  rw [created, occurrences_ended plain, occurrences_append_imageElement plain,
    occurrences_of_lead nameless, occurrences_nil, Nat.zero_add, Nat.add_zero]

end Counting

theorem isElement_imageElement (id target : List Char) :
    Markup.IsElement (imageElement id target) := by
  have fixed : ∀ text ∈ ["Relationship Id=\"".toList, "\" Type=\"".toList, imageType,
      "\" Target=\"".toList, "\"/".toList], Markup.Plain text := by decide +kernel
  simp only [List.forall_mem_cons] at fixed
  obtain ⟨opening, typed, type, aimed, closing, -⟩ := fixed
  refine ⟨"Relationship Id=\"".toList ++ Markup.escape id ++ "\" Type=\"".toList ++ imageType ++
    "\" Target=\"".toList ++ Markup.escape target ++ "\"/".toList, ?_, ?_⟩
  · have named := (opening.append (Markup.plain_escape id)).append typed
    have directed := (named.append type).append aimed
    exact (directed.append (Markup.plain_escape target)).append closing
  · have first : "<Relationship Id=\"".toList = '<' :: "Relationship Id=\"".toList := rfl
    have last : "\"/>".toList = "\"/".toList ++ ['>'] := rfl
    unfold imageElement
    simp only [first, last, List.append_assoc, List.cons_append]

/-- The new element stands in the relationships, and an end tag behind it. -/
theorem elements_addImage {relationships : Option Markup}
    (h : ∀ markup, relationships = some markup → Extendable markup) (id target : List Char) :
    imageElement id target ∈ Markup.elements (addImage relationships id target) ∧
      rootEnd <:+: addImage relationships id target := by
  obtain ⟨front, back, added⟩ : ∃ front back,
      addImage relationships id target = front ++ imageElement id target ++ (rootEnd ++ back) := by
    cases relationships with
    | none =>
        obtain ⟨prologue, -, created⟩ := addImage_none
        exact ⟨prologue, [], created id target⟩
    | some markup =>
        rcases addImage_of_extendable (h markup rfl) id target with
          ⟨before, after, -, added⟩ | ⟨before, after, -, -, added⟩
        · exact ⟨before, after, added⟩
        · exact ⟨before ++ ['>'], after, added⟩
  rw [added]
  refine ⟨?_, front ++ imageElement id target, back, List.append_assoc _ _ _⟩
  rw [Markup.elements_around (isElement_imageElement id target)]
  exact List.mem_append_right _ List.mem_cons_self

/-- An element that stands in relationships with an end tag is not lost to a new one. -/
theorem mem_elements_addImage {markup element : Markup} (closed : rootEnd <:+: markup)
    (other : element ≠ rootEnd) (h : element ∈ Markup.elements markup) (id target : List Char) :
    element ∈ Markup.elements (addImage (some markup) id target) := by
  rcases addImage_of_extendable (.inl closed) id target with
    ⟨before, after, whole, added⟩ | ⟨before, after, -, unclosed, -⟩
  · rw [whole, Markup.elements_around isElement_rootEnd, List.mem_append, List.mem_cons] at h
    rw [added, Markup.elements_around (isElement_imageElement id target),
      Markup.elements_of_isElement isElement_rootEnd]
    rcases h with before | here | after
    · exact List.mem_append_left _ before
    · exact absurd here other
    · exact List.mem_append_right _ (List.mem_cons_of_mem _ (List.mem_cons_of_mem _ after))
  · exact absurd closed unclosed

/-- A new picture is declared, once. -/
theorem declares_addImage {relationships : Option Markup} {id : List Char}
    (extendable : ∀ markup, relationships = some markup → Extendable markup)
    (plain : ∀ c ∈ id, c.isAlphanum)
    (free : ∀ markup, relationships = some markup → hasId markup id = false) (target : List Char) :
    Declares (addImage relationships id target) id (Markup.escape target) := by
  refine ⟨?_, _, (elements_addImage extendable id target).1, refersToPicture_imageElement plain target⟩
  cases relationships with
  | none => rw [occurrences_create plain, occurrences_imageElement plain plain, if_pos rfl]
  | some markup =>
      rw [occurrences_addImage (extendable markup rfl) plain, hasId_eq_false.mp (free markup rfl),
        occurrences_imageElement plain plain, if_pos rfl]

theorem Declares.hasId {markup id target : List Char} (h : Declares markup id target) :
    Relationships.hasId markup id = true := by
  refine Bool.not_eq_false _ ▸ fun absent => ?_
  have never := hasId_eq_false.mp absent
  rw [h.once] at never
  cases never

/-- No identifier is lost to a new picture. -/
theorem hasId_addImage {markup id : List Char} (extendable : Extendable markup)
    (plain : ∀ c ∈ id, c.isAlphanum) (h : hasId markup id = true) (other target : List Char) :
    hasId (addImage (some markup) other target) id = true := by
  refine Bool.not_eq_false _ ▸ fun absent => ?_
  have never := hasId_eq_false.mp absent
  rw [occurrences_addImage extendable plain] at never
  rw [hasId_eq_false.mpr (by omega)] at h
  cases h

/-- A picture stays declared, once, when another one is added. -/
theorem Declares.addImage {markup id target : List Char} (h : Declares markup id target)
    (closed : rootEnd <:+: markup) (plain : ∀ c ∈ id, c.isAlphanum) {other : List Char}
    (plain' : ∀ c ∈ other, c.isAlphanum) (apart : id ≠ other) (otherTarget : List Char) :
    Declares (Relationships.addImage (some markup) other otherTarget) id target := by
  obtain ⟨element, listed, refers⟩ := h.element
  refine ⟨?_, element, mem_elements_addImage closed ?_ listed other otherTarget, refers⟩
  · rw [occurrences_addImage (.inl closed) plain, h.once, occurrences_imageElement plain plain',
      if_neg apart]
  · rintro rfl
    have unnamed : Markup.tagName rootEnd ≠ "Relationship".toList := by decide
    have identified := refers.identified
    rw [Markup.valueIn?, if_neg unnamed] at identified
    cases identified

/-- A target is spelled with the characters of the part it was made for, and a slash. -/
theorem target_subset (part media : String) :
    (target part media).toList ⊆ '/' :: media.toList := by
  have fromRoot : ("/" ++ media).toList ⊆ '/' :: media.toList := by
    rw [String.toList_append]
    exact List.Subset.refl _
  unfold target
  extract_lets folder
  cases led : Text.dropLead? (folder ++ ['/']) media.toList with
  | none => exact fromRoot
  | some inner =>
      simp only
      split
      · exact fromRoot
      · rw [String.toList_ofList, ← Text.dropLead?_eq_some.mp led]
        exact fun c mem => List.mem_cons_of_mem _ (List.mem_append_right _ mem)

/-- A target refers to the part it was made for. -/
theorem resolve_target (part media : String) (h : ¬ ['/', '/'] <:+: media.toList) :
    resolve part (target part media).toList = media.toList := by
  have fromRoot : resolve part ("/" ++ media).toList = media.toList := by
    rw [String.toList_append]
    rfl
  rw [target]
  cases inside : PartName.splitFolder? part.toList with
  | none =>
      cases Text.dropLead? ([] ++ ['/']) media.toList with
      | none => exact fromRoot
      | some inner => exact fromRoot
  | some cut =>
      obtain ⟨folder, file⟩ := cut
      simp only
      cases led : Text.dropLead? (folder ++ ['/']) media.toList with
      | none => exact fromRoot
      | some inner =>
          have whole := Text.dropLead?_eq_some.mp led
          simp only
          split
          · exact fromRoot
          · rw [String.toList_ofList]
            unfold resolve
            split
            · next name =>
              refine absurd ⟨folder, name, ?_⟩ h
              rw [← whole]
              simp
            · rw [inside, ← whole]
              simp

end Stencil.Relationships
