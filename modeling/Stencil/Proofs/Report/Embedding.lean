import Mathlib.Data.String.Basic
import Stencil.Proofs.Image.Numbers
import Stencil.Proofs.Package.PartName
import Stencil.Proofs.Report.FreeNumbers
import Stencil.Proofs.Report.Placement

/-! # Documents with pictures

What holds of a document while pictures are put into it, step by step, and what is found in it
once its relationships are written. In these each picture is declared once, by an identifier of its
own that no earlier relationship has; one more picture keeps this.

Main statements: every run keeps `Sound`; `Sound.content?_finish`.
-/

namespace Stencil

/-- What relationships say after pictures were added to those there were before. -/
structure Linked (before : Option Markup) (placements : List Placement) (after : Markup) :
    Prop where
  closed : Relationships.rootEnd <:+: after
  kept : ∀ markup, before = some markup → ∀ id : List Char, (∀ c ∈ id, c.isAlphanum) →
    Relationships.hasId markup id = true → Relationships.hasId after id = true
  plain : ∀ placement ∈ placements, ∀ c ∈ placement.relationship, c.isAlphanum
  declared : ∀ placement ∈ placements,
    Relationships.Declares after placement.relationship (Markup.escape placement.target)
  distinct : (placements.map Placement.relationship).Nodup
  fresh : ∀ markup, before = some markup → ∀ placement ∈ placements,
    Relationships.hasId markup placement.relationship = false

namespace Linked

/-- The first picture of some parts. -/
theorem first {before : Option Markup} {placement : Placement}
    (extendable : ∀ markup, before = some markup → Relationships.Extendable markup)
    (plain : ∀ c ∈ placement.relationship, c.isAlphanum)
    (free : ∀ markup, before = some markup →
      Relationships.hasId markup placement.relationship = false) :
    Linked before [placement]
      (Relationships.addImage before placement.relationship placement.target) where
  closed := (Relationships.elements_addImage extendable _ _).2
  kept := by
    rintro markup rfl id alphanumeric there
    exact Relationships.hasId_addImage (extendable markup rfl) alphanumeric there _ _
  plain := List.forall_mem_singleton.mpr plain
  declared := List.forall_mem_singleton.mpr
    (Relationships.declares_addImage extendable plain free placement.target)
  distinct := List.nodup_singleton _
  fresh := fun markup same => List.forall_mem_singleton.mpr (free markup same)

/-- One more picture. -/
theorem next {before : Option Markup} {placements : List Placement} {after : Markup}
    (h : Linked before placements after) {placement : Placement}
    (plain : ∀ c ∈ placement.relationship, c.isAlphanum)
    (free : Relationships.hasId after placement.relationship = false) :
    Linked before (placements ++ [placement])
      (Relationships.addImage (some after) placement.relationship placement.target) := by
  have extendable : ∀ markup, some after = some markup → Relationships.Extendable markup := by
    rintro markup same
    cases same
    exact .inl h.closed
  have apart : ∀ earlier ∈ placements, earlier.relationship ≠ placement.relationship := by
    intro earlier mem same
    have there := (h.declared earlier mem).hasId
    rw [same, free] at there
    cases there
  constructor
  case closed => exact (Relationships.elements_addImage extendable _ _).2
  case kept =>
    intro markup same id alphanumeric there
    exact Relationships.hasId_addImage (.inl h.closed) alphanumeric
      (h.kept markup same id alphanumeric there) _ _
  case plain => exact List.forall_mem_append.mpr ⟨h.plain, List.forall_mem_singleton.mpr plain⟩
  case declared =>
    refine List.forall_mem_append.mpr ⟨fun earlier mem => ?_, List.forall_mem_singleton.mpr ?_⟩
    · exact (h.declared earlier mem).addImage h.closed (h.plain earlier mem) plain
        (apart earlier mem) placement.target
    · refine Relationships.declares_addImage extendable plain (fun markup same => ?_) _
      cases same
      exact free
  case distinct =>
    rw [List.map_append, List.map_singleton, ← List.concat_eq_append]
    refine List.Nodup.concat (fun mem => ?_) h.distinct
    obtain ⟨earlier, listed, same⟩ := List.mem_map.mp mem
    exact apart earlier listed same
  case fresh =>
    intro markup same
    refine List.forall_mem_append.mpr ⟨h.fresh markup same, List.forall_mem_singleton.mpr ?_⟩
    refine Bool.eq_false_iff.mpr fun there => ?_
    rw [h.kept markup same _ plain there] at free
    cases free

end Linked

end Stencil

namespace Stencil.Embedding

/-- The names of the relationships that were added to. -/
def homes (embedding : Embedding) : List String :=
  embedding.relationships.map Prod.fst

section Relationships

variable {name : String} {markup : Markup} {related : List (String × Markup)}

theorem lookup_setRelationships_self :
    (setRelationships name markup related).lookup name = some markup := by
  induction related with
  | nil => simp [setRelationships]
  | cons entry rest ih =>
      obtain ⟨other, kept⟩ := entry
      rw [setRelationships]
      split
      · simp
      · next apart =>
        split
        · simp
        · rw [List.lookup_cons, beq_eq_false_iff_ne.mpr apart]
          exact ih

theorem lookup_setRelationships_of_ne {other : String} (apart : other ≠ name) :
    (setRelationships name markup related).lookup other = related.lookup other := by
  induction related with
  | nil => rw [setRelationships, List.lookup_cons, beq_eq_false_iff_ne.mpr apart]
  | cons entry rest ih =>
      obtain ⟨first, kept⟩ := entry
      rw [setRelationships]
      split
      · next same =>
        rw [List.lookup_cons, List.lookup_cons, ← same, beq_eq_false_iff_ne.mpr apart]
      · split
        · rw [List.lookup_cons, beq_eq_false_iff_ne.mpr apart]
        · rw [List.lookup_cons, List.lookup_cons, ih]

theorem mem_setRelationships {other : String}
    (h : other ∈ (setRelationships name markup related).map Prod.fst) :
    other = name ∨ other ∈ related.map Prod.fst := by
  induction related with
  | nil => simpa [setRelationships] using h
  | cons entry rest ih =>
      obtain ⟨first, kept⟩ := entry
      rw [setRelationships] at h
      split at h
      · next same =>
        simp only [List.map_cons, List.mem_cons] at h ⊢
        rcases h with here | later
        · exact .inl here
        · exact .inr (.inr later)
      · split at h
        · simpa using h
        · simp only [List.map_cons, List.mem_cons] at h ⊢
          rcases h with here | later
          · exact .inr (.inl here)
          · exact (ih later).imp_right .inr

theorem sorted_setRelationships (h : (related.map Prod.fst).Pairwise (· < ·)) :
    ((setRelationships name markup related).map Prod.fst).Pairwise (· < ·) := by
  induction related with
  | nil => exact List.pairwise_singleton _ _
  | cons entry rest ih =>
      obtain ⟨first, kept⟩ := entry
      rw [List.map_cons, List.pairwise_cons] at h
      rw [setRelationships]
      split
      · next same => exact List.pairwise_cons.mpr ⟨same ▸ h.1, h.2⟩
      · next apart =>
        split
        · next before =>
          refine List.pairwise_cons.mpr ⟨fun other mem => ?_, List.pairwise_cons.mpr h⟩
          rcases List.mem_cons.mp mem with rfl | later
          · exact before
          · exact lt_trans before (h.1 other later)
        · next behind =>
          refine List.pairwise_cons.mpr ⟨fun other mem => ?_, ih h.2⟩
          rcases mem_setRelationships mem with rfl | later
          · exact lt_of_le_of_ne (not_lt.mp behind) (Ne.symm apart)
          · exact h.1 other later

end Relationships

/-- The document with the relationships of its pictures. -/
def related (embedding : Embedding) : Document :=
  embedding.relationships.foldl
    (fun document (name, markup) => document.set name (.markup markup)) embedding.document

theorem finish_of_embedded {embedding : Embedding} (h : embedding.embedded ≠ 0) :
    embedding.finish =
      embedding.related.set PartName.contentTypes (.markup embedding.contentTypes) := by
  rw [finish, if_neg h]
  rfl

private theorem content?_foldl_set {entries : List (String × Markup)}
    (distinct : (entries.map Prod.fst).Nodup) (document : Document) (name : String) :
    (entries.foldl (fun document (name, markup) => document.set name (.markup markup))
        document).content? name =
      ((entries.lookup name).map PartContent.markup).or (document.content? name) := by
  induction entries generalizing document with
  | nil => rfl
  | cons entry rest ih =>
      obtain ⟨first, markup⟩ := entry
      rw [List.map_cons, List.nodup_cons] at distinct
      rw [List.foldl_cons, ih distinct.2, List.lookup_cons]
      by_cases same : name = first
      · subst same
        have absent : rest.lookup name = none := by
          rw [List.lookup_eq_none_iff]
          rintro ⟨other, kept⟩ mem
          refine bne_iff_ne.mpr ?_
          rintro rfl
          exact distinct.1 (List.mem_map.mpr ⟨_, mem, rfl⟩)
        simp [absent]
      · rw [Document.content?_set_of_ne same, beq_eq_false_iff_ne.mpr same]

/-- Written relationships replace what was there. -/
theorem content?_related {embedding : Embedding} (distinct : embedding.homes.Nodup)
    (name : String) :
    embedding.related.content? name =
      ((embedding.relationships.lookup name).map PartContent.markup).or
        (embedding.document.content? name) :=
  content?_foldl_set distinct embedding.document name

/-- What holds of a document after pictures were put into it. -/
structure Sound (document : Document) (placements : List Placement) (embedding : Embedding) :
    Prop where
  kept : ∀ name, document.contains name = true → embedding.document.contains name = true
  untouched : ∀ name, PartName.isTemplate name = false → name ∉ placements.map Placement.media →
    embedding.document.content? name = document.content? name
  named : ∀ placement ∈ placements, ∃ number,
    placement.media = mediaName (ImageFormat.detect placement.picture) number
  stored : ∀ placement ∈ placements,
    embedding.document.content? placement.media = some (.binary placement.picture)
  fresh : ∀ placement ∈ placements, document.contains placement.media = false
  distinct : (placements.map Placement.media).Nodup
  sorted : embedding.homes.Pairwise (· < ·)
  housed : ∀ home ∈ embedding.homes, ∃ placement ∈ placements, placement.home = home
  linked : ∀ home,
    (∀ markup, document.markup? home = some markup → Relationships.Extendable markup) →
    match embedding.relationships.lookup home with
    | none => placements.filter (·.home = home) = []
    | some after => Linked (document.markup? home) (placements.filter (·.home = home)) after
  counted : embedding.embedded = placements.length

/-- The last letters of the names of media parts tell them from parts with tags, relationships
    and declarations. -/
theorem getLast?_mediaName (format : ImageFormat) (number : Nat) :
    ∃ c ∈ ['f', 'g', 'p'], (mediaName format number).toList.getLast? = some c := by
  rw [toList_mediaName, List.getLast?_append]
  cases format with
  | png | jpeg => exact ⟨'g', by decide, rfl⟩
  | gif => exact ⟨'f', by decide, rfl⟩
  | bmp => exact ⟨'p', by decide, rfl⟩

theorem isTemplate_mediaName (format : ImageFormat) (number : Nat) :
    PartName.isTemplate (mediaName format number) = false := by
  refine Bool.eq_false_iff.mpr fun template => ?_
  obtain ⟨c, mem, last⟩ := getLast?_mediaName format number
  rw [PartName.getLast?_of_isTemplate template] at last
  cases last
  exact absurd mem (by decide)

theorem isMarkup_mediaName (format : ImageFormat) (number : Nat) :
    PartName.isMarkup (mediaName format number) = false := by
  refine Bool.eq_false_iff.mpr fun markup => ?_
  obtain ⟨c, mem, last⟩ := getLast?_mediaName format number
  obtain ⟨d, among, ends⟩ := PartName.getLast?_of_isMarkup markup
  have lower : ∀ c ∈ ['f', 'g', 'p'], c.toLower ∉ ['l', 's'] :=
    List.all_iff_forall_prop.mp (by decide)
  rw [Text.lowerAscii, List.getLast?_map, last] at ends
  cases ends
  exact lower c mem among

theorem mediaName_ne_partFor (format : ImageFormat) (number : Nat) (part : String) :
    mediaName format number ≠ Relationships.partFor part := by
  intro same
  obtain ⟨c, mem, last⟩ := getLast?_mediaName format number
  rw [same, PartName.getLast?_partFor] at last
  cases last
  exact absurd mem (by decide)

theorem mediaName_ne_contentTypes (format : ImageFormat) (number : Nat) :
    mediaName format number ≠ PartName.contentTypes := by
  intro same
  obtain ⟨c, mem, last⟩ := getLast?_mediaName format number
  rw [same] at last
  have ends : PartName.contentTypes.toList.getLast? = some 'l' := by decide
  rw [ends] at last
  cases last
  exact absurd mem (by decide)

/-- The name of a new media part is free. -/
theorem contains_placement_media (embedding : Embedding) (part : String) (picture : ByteArray) :
    embedding.document.contains (embedding.placement part picture).media = false :=
  (freeMedia_isFirstFree embedding.document (ImageFormat.detect picture) embedding.nextMedia).free

namespace Sound

variable {document : Document} {placements : List Placement} {embedding : Embedding}

/-- The document before its first picture. -/
theorem begin (document : Document) (contentTypes : Markup) (nextDrawing : UInt32) :
    Sound document [] (Embedding.begin document contentTypes nextDrawing) where
  kept := fun _ there => there
  untouched := fun _ _ _ => rfl
  named := by simp
  stored := by simp
  fresh := by simp
  distinct := List.nodup_nil
  sorted := List.Pairwise.nil
  housed := by simp [homes, Embedding.begin]
  linked := fun _ _ => rfl
  counted := rfl

theorem isTemplate_media (h : Sound document placements embedding) {placement : Placement}
    (mem : placement ∈ placements) : PartName.isTemplate placement.media = false := by
  obtain ⟨number, named⟩ := h.named placement mem
  exact named ▸ isTemplate_mediaName _ number

/-- The text of a part with tags changes nothing else. -/
theorem setText (h : Sound document placements embedding) {name : String}
    (tagged : PartName.isTemplate name = true) (text : Markup) :
    Sound document placements
      { embedding with document := embedding.document.set name (.markup text) } where
  kept := by
    intro other there
    simp only [Document.contains_set, h.kept other there, Bool.or_true]
  untouched := by
    intro other untagged free
    have apart : other ≠ name := by
      rintro rfl
      rw [tagged] at untagged
      cases untagged
    exact (Document.content?_set_of_ne apart _ _).trans (h.untouched other untagged free)
  named := h.named
  stored := by
    intro placement mem
    have apart : placement.media ≠ name := by
      rintro rfl
      rw [h.isTemplate_media mem] at tagged
      cases tagged
    exact (Document.content?_set_of_ne apart _ _).trans (h.stored placement mem)
  fresh := h.fresh
  distinct := h.distinct
  sorted := h.sorted
  housed := h.housed
  linked := h.linked
  counted := h.counted

/-- The relationships of a part are found as they were before the first picture. -/
theorem markup?_partFor (h : Sound document placements embedding) (part : String) :
    embedding.document.markup? (Relationships.partFor part) =
      document.markup? (Relationships.partFor part) := by
  have free : Relationships.partFor part ∉ placements.map Placement.media := by
    intro mem
    obtain ⟨placement, listed, same⟩ := List.mem_map.mp mem
    obtain ⟨number, named⟩ := h.named placement listed
    exact mediaName_ne_partFor _ number part (named.symm.trans same)
  rw [Document.markup?, h.untouched _ (PartName.isTemplate_partFor part) free]
  rfl

/-- The identifier of a new picture is free in the relationships of its part. -/
theorem hasId_placement {embedding : Embedding} {part : String} {markup : Markup}
    (picture : ByteArray)
    (there : embedding.relationships? (Relationships.partFor part) = some markup) :
    Relationships.hasId markup (embedding.placement part picture).relationship = false := by
  have free := (freeRelationship_isFirstFree (embedding.relationships? (Relationships.partFor part))
    (embedding.embedded + 1)).free
  simp only [there, Option.any_some] at free
  rw [placement, there]
  exact free

theorem linked_embed (h : Sound document placements embedding) (part : String)
    (picture : ByteArray)
    (extendable : ∀ markup, document.markup? (Relationships.partFor part) = some markup →
      Relationships.Extendable markup) :
    let placement := embedding.placement part picture
    Linked (document.markup? (Relationships.partFor part))
      (placements.filter (·.home = Relationships.partFor part) ++ [placement])
      (Relationships.addImage (embedding.relationships? (Relationships.partFor part))
        placement.relationship placement.target) := by
  intro placement
  have plain : ∀ c ∈ placement.relationship, c.isAlphanum :=
    fun c mem => isAlphanum_of_mem_relationshipId mem
  have linked := h.linked (Relationships.partFor part) extendable
  have found : embedding.relationships? (Relationships.partFor part) =
      (embedding.relationships.lookup (Relationships.partFor part)).or
        (document.markup? (Relationships.partFor part)) := by
    rw [relationships?, h.markup?_partFor]
    split
    · next isThere => rw [isThere, Option.some_or]
    · next isNone => rw [isNone, Option.none_or]
  cases earlier : embedding.relationships.lookup (Relationships.partFor part) with
  | none =>
      rw [earlier] at linked found
      rw [Option.none_or] at found
      rw [linked, List.nil_append, found]
      exact .first extendable plain fun markup there => hasId_placement picture (found.trans there)
  | some after =>
      rw [earlier] at linked found
      rw [Option.some_or] at found
      rw [found]
      exact linked.next plain (hasId_placement picture found)

/-- The relationships of every part declare its own pictures, when one of them is new. -/
theorem linked_setRelationships (h : Sound document placements embedding) (part : String)
    (picture : ByteArray) {home : String}
    (extendable : ∀ markup, document.markup? home = some markup →
      Relationships.Extendable markup) :
    let placement := embedding.placement part picture
    let added := Relationships.addImage (embedding.relationships? (Relationships.partFor part))
      placement.relationship placement.target
    match (setRelationships (Relationships.partFor part) added embedding.relationships).lookup
      home with
    | none => (placements ++ [placement]).filter (·.home = home) = []
    | some after =>
      Linked (document.markup? home) ((placements ++ [placement]).filter (·.home = home)) after := by
  simp only [List.filter_append]
  by_cases here : home = Relationships.partFor part
  · subst here
    rw [lookup_setRelationships_self]
    have own : [embedding.placement part picture].filter
        (·.home = Relationships.partFor part) = [embedding.placement part picture] :=
      List.filter_cons_of_pos (decide_eq_true rfl)
    rw [own]
    exact h.linked_embed part picture extendable
  · rw [lookup_setRelationships_of_ne here]
    have other : [embedding.placement part picture].filter (·.home = home) = [] :=
      List.filter_cons_of_neg fun lives => here (of_decide_eq_true lives).symm
    rw [other, List.append_nil]
    exact h.linked home extendable

/-- A new picture keeps what holds of the earlier ones. -/
theorem embed (h : Sound document placements embedding) (options : RenderOptions) (part : String)
    (picture : ByteArray) :
    Sound document (placements ++ [embedding.placement part picture])
      (embedding.embed options part picture).2 := by
  have unused := contains_placement_media embedding part picture
  have apart : ∀ placement ∈ placements,
      placement.media ≠ (embedding.placement part picture).media := by
    intro placement mem same
    rw [← same, Document.contains_eq_isSome, h.stored placement mem] at unused
    cases unused
  have set : (embedding.embed options part picture).2.document =
      embedding.document.set (embedding.placement part picture).media (.binary picture) := rfl
  have added : (embedding.embed options part picture).2.relationships =
      setRelationships (Relationships.partFor part)
        (Relationships.addImage (embedding.relationships? (Relationships.partFor part))
          (embedding.placement part picture).relationship
          (embedding.placement part picture).target) embedding.relationships := rfl
  constructor
  case kept =>
    intro name there
    rw [set, Document.contains_set, h.kept name there, Bool.or_true]
  case untouched =>
    intro name untagged free
    rw [List.map_append, List.mem_append, not_or, List.map_singleton, List.mem_singleton] at free
    rw [set, Document.content?_set_of_ne free.2]
    exact h.untouched name untagged free.1
  case named => exact List.forall_mem_append.mpr ⟨h.named, List.forall_mem_singleton.mpr ⟨_, rfl⟩⟩
  case stored =>
    refine List.forall_mem_append.mpr ⟨fun placement mem => ?_, List.forall_mem_singleton.mpr ?_⟩
    · rw [set, Document.content?_set_of_ne (apart placement mem)]
      exact h.stored placement mem
    · rw [set]
      exact Document.content?_set_self _ _ _
  case fresh =>
    refine List.forall_mem_append.mpr ⟨h.fresh, List.forall_mem_singleton.mpr ?_⟩
    refine Bool.eq_false_iff.mpr fun there => ?_
    rw [h.kept _ there] at unused
    cases unused
  case distinct =>
    rw [List.map_append, List.map_singleton, ← List.concat_eq_append]
    refine List.Nodup.concat (fun mem => ?_) h.distinct
    obtain ⟨placement, listed, same⟩ := List.mem_map.mp mem
    exact apart placement listed same
  case sorted =>
    rw [homes, added]
    exact sorted_setRelationships h.sorted
  case housed =>
    intro home mem
    rw [homes, added] at mem
    rcases mem_setRelationships mem with rfl | earlier
    · exact ⟨_, List.mem_append_right _ List.mem_cons_self, rfl⟩
    · obtain ⟨placement, listed, lives⟩ := h.housed home earlier
      exact ⟨placement, List.mem_append_left _ listed, lives⟩
  case linked => exact fun home extendable => h.linked_setRelationships part picture extendable
  case counted =>
    rw [List.length_append, List.length_singleton, ← h.counted]
    rfl

/-- Every run keeps what holds of the document. -/
theorem run {options : RenderOptions} {after : Embedding} {following : List Placement}
    (h : Sound document placements embedding) (steps : Run options embedding following after) :
    Sound document (placements ++ following) after := by
  induction steps generalizing placements with
  | done => rwa [List.append_nil]
  | embed part picture _ ih =>
      have one := ih (h.embed options part picture)
      rwa [List.append_assoc, List.singleton_append] at one

/-- Pictures leave the parts with tags as they are. -/
theorem content?_run {options : RenderOptions} {before after : Embedding}
    {following : List Placement} (steps : Run options before following after) {name : String}
    (tagged : PartName.isTemplate name = true) :
    after.document.content? name = before.document.content? name := by
  induction steps with
  | done => rfl
  | @embed before after following part picture _ ih =>
      have apart : name ≠ (before.placement part picture).media := by
        rintro rfl
        rw [placement, isTemplate_mediaName] at tagged
        cases tagged
      exact ih.trans (Document.content?_set_of_ne apart _ _)

/-- In the finished document the relationships stand in place of what was there. -/
theorem content?_finish (h : Sound document placements embedding) {name : String}
    (other : name ≠ PartName.contentTypes) :
    embedding.finish.content? name =
      ((embedding.relationships.lookup name).map PartContent.markup).or
        (embedding.document.content? name) := by
  by_cases none : embedding.embedded = 0
  · have empty : placements = [] := List.length_eq_zero_iff.mp (h.counted.symm.trans none)
    have unhoused : embedding.relationships = [] := by
      cases related : embedding.relationships with
      | nil => rfl
      | cons entry rest =>
          obtain ⟨placement, mem, -⟩ := h.housed entry.1 (by simp [homes, related])
          rw [empty] at mem
          cases mem
    rw [finish, if_pos none, unhoused]
    rfl
  · rw [finish_of_embedded none, Document.content?_set_of_ne other]
    exact content?_related (h.sorted.imp fun before => ne_of_lt before) name

/-- The text of a part with tags is finished as it is. -/
theorem content?_finish_of_isTemplate (h : Sound document placements embedding) {name : String}
    (tagged : PartName.isTemplate name = true) :
    embedding.finish.content? name = embedding.document.content? name := by
  have unrelated : embedding.relationships.lookup name = none := by
    rw [List.lookup_eq_none_iff]
    rintro ⟨home, markup⟩ mem
    obtain ⟨placement, -, lives⟩ := h.housed home (List.mem_map.mpr ⟨_, mem, rfl⟩)
    refine bne_iff_ne.mpr fun same => ?_
    rw [same, ← lives, Placement.home, PartName.isTemplate_partFor] at tagged
    cases tagged
  rw [h.content?_finish (PartName.ne_contentTypes_of_isTemplate tagged), unrelated]
  rfl

/-- A media part of the finished document holds the bytes of its picture. -/
theorem content?_finish_media (h : Sound document placements embedding) {placement : Placement}
    (mem : placement ∈ placements) :
    embedding.finish.content? placement.media = some (.binary placement.picture) := by
  obtain ⟨number, named⟩ := h.named placement mem
  have unrelated : embedding.relationships.lookup placement.media = none := by
    rw [List.lookup_eq_none_iff]
    rintro ⟨home, markup⟩ listed
    obtain ⟨other, -, lives⟩ := h.housed home (List.mem_map.mpr ⟨_, listed, rfl⟩)
    refine bne_iff_ne.mpr fun same => ?_
    exact mediaName_ne_partFor _ number other.part ((named.symm.trans same).trans lives.symm)
  rw [h.content?_finish (named ▸ mediaName_ne_contentTypes _ number), unrelated, h.stored _ mem]
  rfl

/-- The relationships of the finished document declare the pictures of their parts. -/
theorem linked_finish (h : Sound document placements embedding) {placement : Placement}
    (mem : placement ∈ placements)
    (extendable : ∀ markup, document.markup? placement.home = some markup →
      Relationships.Extendable markup) :
    ∃ after, embedding.finish.markup? placement.home = some after ∧
      Linked (document.markup? placement.home) (placements.filter (·.home = placement.home))
        after := by
  have linked := h.linked placement.home extendable
  split at linked
  · have listed : placement ∈ placements.filter (·.home = placement.home) :=
      List.mem_filter.mpr ⟨mem, decide_eq_true rfl⟩
    rw [linked] at listed
    cases listed
  · next after found =>
    have other : placement.home ≠ PartName.contentTypes :=
      PartName.partFor_ne_contentTypes placement.part
    refine ⟨after, Document.markup?_of_content? ?_, linked⟩
    rw [h.content?_finish other, found]
    rfl

/-- What stands in the part is read as a drawing that names the media part. -/
theorem shows_drawing (h : Sound document placements embedding) {placement : Placement}
    (mem : placement ∈ placements) (options : RenderOptions) :
    Drawing.Shows (placement.drawing options) (Markup.escape placement.relationship)
      (PartName.file placement.media.toList) options.imageWidth options.imageHeight := by
  obtain ⟨number, named⟩ := h.named placement mem
  have shows := Drawing.shows_inline placement.relationship placement.number
    (PartName.file placement.media.toList) options.imageWidth options.imageHeight
  rwa [named, escape_file_mediaName, ← named] at shows

end Sound

end Stencil.Embedding
