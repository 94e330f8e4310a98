import Mathlib.Data.List.Nodup
import Mathlib.Data.List.Perm.Subperm
import Stencil.Proofs.Package.Document
import Stencil.Proofs.Package.PartName
import Stencil.Proofs.Package.Relationships
import Stencil.Report.Embedding

/-! # Free numbers

A search for a free number ends: no more numbers are taken than the document has parts, or than
the relationships have characters, because different numbers make different names.

Main statements: `freeMedia_isFirstFree` and `freeRelationship_isFirstFree`.
-/

namespace Stencil.Embedding

/-- Whether a number is the first one from `start` on that is not taken. -/
structure IsFirstFree (taken : Nat → Bool) (start number : Nat) : Prop where
  from_start : start ≤ number
  free : taken number = false
  first : ∀ earlier, start ≤ earlier → earlier < number → taken earlier = true

theorem firstFree_passes (taken : Nat → Bool) (bound start : Nat) :
    start ≤ firstFree taken bound start ∧
      ∀ earlier, start ≤ earlier → earlier < firstFree taken bound start → taken earlier = true := by
  induction bound generalizing start with
  | zero =>
      refine ⟨Nat.le_refl start, fun earlier low high => ?_⟩
      rw [firstFree] at high
      omega
  | succ bound ih =>
      rw [firstFree]
      split
      · next here =>
        obtain ⟨low, passed⟩ := ih (start + 1)
        refine ⟨by omega, fun earlier lower higher => ?_⟩
        rcases Nat.eq_or_lt_of_le lower with same | later
        · exact same ▸ here
        · exact passed earlier later higher
      · refine ⟨Nat.le_refl start, fun earlier low high => ?_⟩
        omega

theorem firstFree_stops (taken : Nat → Bool) (bound start : Nat) :
    taken (firstFree taken bound start) = false ∨ firstFree taken bound start = start + bound := by
  induction bound generalizing start with
  | zero => exact .inr rfl
  | succ bound ih =>
      rw [firstFree]
      split
      · rcases ih (start + 1) with free | last
        · exact .inl free
        · exact .inr (by omega)
      · next free => exact .inl (Bool.eq_false_iff.mpr free)

/-- The search succeeds when no more numbers can be taken than it passes over. -/
theorem firstFree_isFirstFree {taken : Nat → Bool} {bound : Nat}
    (few : ∀ numbers : List Nat, numbers.Nodup → (∀ number ∈ numbers, taken number = true) →
      numbers.length ≤ bound) (start : Nat) :
    IsFirstFree taken start (firstFree taken bound start) := by
  obtain ⟨low, passed⟩ := firstFree_passes taken bound start
  refine ⟨low, ?_, passed⟩
  rcases firstFree_stops taken bound start with free | last
  · exact free
  · refine Bool.eq_false_iff.mpr fun full => ?_
    -- all numbers up to the last one are taken, one more than can be
    have many := few (List.range' start (bound + 1)) List.nodup_range' fun number mem => by
      rw [List.mem_range'_1] at mem
      by_cases lower : number < start + bound
      · exact passed number mem.1 (last ▸ lower)
      · rwa [show number = start + bound by omega, ← last]
    rw [List.length_range'] at many
    omega

theorem toString_injective {m n : Nat} (h : (toString m).toList = (toString n).toList) : m = n := by
  simp only [Nat.toString_eq_repr, Nat.toList_repr] at h
  have read := congrArg (fun digits => Nat.ofDigitChars 10 digits 0) h
  simpa using read

theorem isDigit_of_mem_toString {n : Nat} {c : Char} (h : c ∈ (toString n).toList) :
    c.isDigit = true := by
  rw [Nat.toString_eq_repr, Nat.toList_repr] at h
  exact Nat.isDigit_of_mem_toDigits (by decide) (by decide) h

theorem isAlphanum_of_mem_relationshipId {n : Nat} {c : Char} (h : c ∈ relationshipId n) :
    c.isAlphanum = true := by
  rcases List.mem_append.mp h with lead | digit
  · have fixed : ∀ c ∈ "rIdReportgen".toList, c.isAlphanum = true :=
      List.all_iff_forall_prop.mp (by decide)
    exact fixed c lead
  · rw [Char.isAlphanum, isDigit_of_mem_toString digit, Bool.or_true]

theorem relationshipId_injective {m n : Nat} (h : relationshipId m = relationshipId n) : m = n :=
  toString_injective (List.append_cancel_left h)

theorem toList_mediaName (format : ImageFormat) (number : Nat) :
    (mediaName format number).toList = "word/media/reportgen_image".toList ++
      (toString number).toList ++ '.' :: format.extension.toList := by
  have dot : ".".toList = ['.'] := rfl
  unfold mediaName
  simp only [String.toList_append, dot, List.append_assoc, List.singleton_append]

theorem mediaName_injective {format : ImageFormat} {m n : Nat}
    (h : mediaName format m = mediaName format n) : m = n := by
  have spelled := congrArg String.toList h
  rw [toList_mediaName, toList_mediaName] at spelled
  exact toString_injective (List.append_cancel_left (List.append_cancel_right spelled))

/-- The name of a media part has no empty folder in it. -/
theorem not_infix_mediaName (format : ImageFormat) (number : Nat) :
    ¬ ['/', '/'] <:+: (mediaName format number).toList := by
  have digits : '/' ∉ (toString number).toList := fun mem =>
    absurd (isDigit_of_mem_toString mem) (by decide)
  have extension : '/' ∉ '.' :: format.extension.toList := by cases format <;> decide
  have lead : "word/media/reportgen_image".toList =
      "word/media/report".toList ++ 'g' :: "en_image".toList := rfl
  have rest : Text.occurrences ['/', '/']
      ("en_image".toList ++ (toString number).toList ++ '.' :: format.extension.toList) = 0 := by
    refine Text.occurrences_of_not_mem List.mem_cons_self ?_
    simp only [List.mem_append, not_or]
    exact ⟨⟨by decide, digits⟩, extension⟩
  rw [← Text.occurrences_eq_zero, toList_mediaName, lead]
  simp only [List.append_assoc, List.cons_append] at rest ⊢
  rw [Text.occurrences_append_cons (by decide), rest]
  rfl

/-- The name of a media part has no character that is written otherwise into markup. -/
theorem escapeChar_of_mem_mediaName {format : ImageFormat} {number : Nat} {c : Char}
    (h : c ∈ (mediaName format number).toList) : Markup.escapeChar c = [c] := by
  have lead : ∀ c ∈ "word/media/reportgen_image".toList, Markup.escapeChar c = [c] :=
    List.all_iff_forall_prop.mp (by decide)
  have extension : ∀ c ∈ '.' :: format.extension.toList, Markup.escapeChar c = [c] := by
    cases format <;> exact List.all_iff_forall_prop.mp (by decide)
  rw [toList_mediaName, List.mem_append, List.mem_append] at h
  rcases h with (inLead | digit) | inExtension
  · exact lead c inLead
  · refine Markup.escapeChar_of_isAlphanum ?_
    rw [Char.isAlphanum, isDigit_of_mem_toString digit, Bool.or_true]
  · exact extension c inExtension

/-- The file of a media part is written into markup as it is. -/
theorem escape_file_mediaName (format : ImageFormat) (number : Nat) :
    Markup.escape (PartName.file (mediaName format number).toList) =
      PartName.file (mediaName format number).toList :=
  Markup.escape_eq_self fun _ mem => escapeChar_of_mem_mediaName (PartName.file_subset _ mem)

/-- A target that refers to a media part is written into markup as it is. -/
theorem escape_target_mediaName (part : String) (format : ImageFormat) (number : Nat) :
    Markup.escape (Relationships.target part (mediaName format number)).toList =
      (Relationships.target part (mediaName format number)).toList := by
  refine Markup.escape_eq_self fun c mem => ?_
  rcases List.mem_cons.mp (Relationships.target_subset part _ mem) with rfl | inName
  · decide
  · exact escapeChar_of_mem_mediaName inName

/-- Different numbers of media parts that are there are no more than the parts. -/
theorem length_le_of_mediaNames {document : Document} {format : ImageFormat} {numbers : List Nat}
    (distinct : numbers.Nodup)
    (h : ∀ number ∈ numbers, document.contains (mediaName format number) = true) :
    numbers.length ≤ document.parts.length := by
  have names : (numbers.map (mediaName format)).Nodup :=
    List.Nodup.map (fun _ _ => mediaName_injective) distinct
  have listed : numbers.map (mediaName format) ⊆ document.names := by
    intro name mem
    obtain ⟨number, numbered, rfl⟩ := List.mem_map.mp mem
    exact Document.contains_iff.mp (h number numbered)
  have few := (names.subperm listed).length_le
  rwa [List.length_map, Document.names, List.length_map] at few

theorem freeMedia_isFirstFree (document : Document) (format : ImageFormat) (start : Nat) :
    IsFirstFree (fun number => document.contains (mediaName format number)) start
      (freeMedia document format start) :=
  firstFree_isFirstFree (fun _ => length_le_of_mediaNames) start

/-- One identifier at most begins at a place. -/
theorem eq_of_relationshipIds_at {m n : Nat} {text : Markup}
    (h : Relationships.idAttribute (relationshipId m) <+: text)
    (h' : Relationships.idAttribute (relationshipId n) <+: text) : m = n := by
  have quoteless (k : Nat) : '\x22' ∉ relationshipId k := fun mem =>
    absurd (isAlphanum_of_mem_relationshipId mem) (by decide)
  have lead : '\x22' ∉ "Id=".toList := by decide
  have inner {k l : Nat} (inside : Relationships.idAttribute (relationshipId k) <+:
      Relationships.idAttribute (relationshipId l)) : k = l := by
    rw [Relationships.idAttribute_eq, Relationships.idAttribute_eq] at inside
    simp only [List.append_assoc, List.cons_append] at inside
    obtain ⟨-, rest⟩ := (Text.append_cons_prefix_iff lead lead _ _).mp inside
    exact relationshipId_injective
      ((Text.append_cons_prefix_iff (quoteless k) (quoteless l) _ _).mp rest).1
  rcases List.prefix_or_prefix_of_prefix h h' with inside | inside
  · exact inner inside
  · exact (inner inside).symm

/-- Different numbers of identifiers that occur are no more than the characters. -/
theorem length_le_of_relationshipIds {markup : Markup} {numbers : List Nat}
    (distinct : numbers.Nodup)
    (h : ∀ number ∈ numbers, Relationships.idAttribute (relationshipId number) <:+: markup) :
    numbers.length ≤ markup.length := by
  induction markup generalizing numbers with
  | nil =>
      cases numbers with
      | nil => exact Nat.le_refl 0
      | cons number rest =>
          have empty := List.infix_nil.mp (h number List.mem_cons_self)
          simp [Relationships.idAttribute_eq] at empty
  | cons c rest ih =>
      by_cases here : ∃ number ∈ numbers,
          Relationships.idAttribute (relationshipId number) <+: c :: rest
      · obtain ⟨number, mem, start⟩ := here
        have others := ih (distinct.erase number) fun other listed => by
          obtain ⟨apart, listed⟩ := distinct.mem_erase_iff.mp listed
          rcases List.infix_cons_iff.mp (h other listed) with same | later
          · exact absurd (eq_of_relationshipIds_at same start) apart
          · exact later
        rw [List.length_erase_of_mem mem] at others
        simp only [List.length_cons]
        omega
      · have all := ih distinct fun number mem => by
          rcases List.infix_cons_iff.mp (h number mem) with start | later
          · exact absurd ⟨number, mem, start⟩ here
          · exact later
        simp only [List.length_cons]
        omega

theorem freeRelationship_isFirstFree (relationships : Option Markup) (start : Nat) :
    IsFirstFree
      (fun number => relationships.any fun markup =>
        Relationships.hasId markup (relationshipId number))
      start (freeRelationship relationships start) := by
  cases relationships with
  | none =>
      refine ⟨Nat.le_refl start, rfl, fun earlier low high => ?_⟩
      rw [freeRelationship] at high
      omega
  | some markup =>
      refine firstFree_isFirstFree (fun numbers distinct taken => ?_) start
      exact length_le_of_relationshipIds distinct fun number mem =>
        Text.occurs_iff.mp (taken number mem)

end Stencil.Embedding
