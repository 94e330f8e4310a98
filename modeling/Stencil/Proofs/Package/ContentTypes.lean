import Mathlib.Data.List.Nodup
import Stencil.Package.ContentTypes
import Stencil.Proofs.Markup.Attribute
import Stencil.Proofs.Text.Occurrences

/-! # Declarations of media types

A declaration is an element with an attribute for the extension. Which extensions are declared is read
off the elements, in any case of the ASCII letters and in either kind of quotes; a search that looks for
one way to write the attribute finds them where they are all written in this way.

Where the declarations have the end tag of their root, declaring formats adds one element for each that
was not found, in front of the last of these tags.

Main statement: `declared_foldl_ensure`.
-/

namespace Stencil.ContentTypes

/-- Whether an element declares the media type of the files with an extension. -/
def declaresExtension (extension : String) (element : Markup) : Bool :=
  Markup.localName element = "Default".toList &&
    (Markup.attribute? "Extension" element).any fun value => Text.lowerAscii value = extension.toList

/-- The elements that declare the extension of a format. -/
def declarations (types : Markup) (format : ImageFormat) : List Markup :=
  (Markup.elements types).filter (declaresExtension format.extension)

/-- How a search expects the extension of a format to be declared. -/
def spelling (format : ImageFormat) : Markup :=
  "extension=\"".toList ++ format.extension.toList ++ ['\x22']

/-- Whether a search for the extension of a format finds its declarations and nothing else. -/
structure Legible (types : Markup) (format : ImageFormat) : Prop where
  quoted : ∀ element ∈ declarations types format, spelling format <:+: Text.lowerAscii element
  genuine : spelling format <:+: Text.lowerAscii types → declarations types format ≠ []

/-- The declarations with those of more formats in front of the end tag of their root. -/
def withDefaults (front back : Markup) (added : List ImageFormat) : Markup :=
  front ++ added.flatMap defaultElement ++ rootEnd ++ back

/-- How often the extension of a format is found. -/
private def found (format : ImageFormat) (text : Markup) : Nat :=
  Text.occurrences (spelling format) (Text.lowerAscii text)

private theorem declares_eq_false {types : Markup} {format : ImageFormat} :
    declares types format = false ↔ found format types = 0 := by
  rw [found, Text.occurrences_eq_zero, ← Text.occurs_iff, Bool.not_eq_true]
  rfl

theorem declares_iff {types : Markup} {format : ImageFormat} :
    declares types format = true ↔ spelling format <:+: Text.lowerAscii types :=
  Text.occurs_iff

/-- Where the declarations of a format are legible, they are what a search finds. -/
theorem Legible.declares_eq_false {types : Markup} {format : ImageFormat} (h : Legible types format) :
    declares types format = false ↔ declarations types format = [] := by
  constructor
  · intro absent
    refine List.eq_nil_iff_forall_not_mem.mpr fun element mem => ?_
    obtain ⟨front, back, whole⟩ :=
      (Markup.isElement_of_mem_elements (List.mem_filter.mp mem).1).2
    have inside : Text.lowerAscii element <:+: Text.lowerAscii types :=
      ⟨Text.lowerAscii front, Text.lowerAscii back, by simp only [Text.lowerAscii, ← List.map_append, whole]⟩
    rw [declares_iff.mpr ((h.quoted element mem).trans inside)] at absent
    cases absent
  · intro none
    refine Bool.eq_false_iff.mpr fun present => ?_
    exact h.genuine (declares_iff.mp present) none

private theorem less_not_mem_spelling (format : ImageFormat) : '<' ∉ spelling format := by
  cases format <;> decide +kernel

private theorem found_append_less (format : ImageFormat) (front back : Markup) :
    found format (front ++ '<' :: back) = found format front + found format back := by
  have lowered : Text.lowerAscii (front ++ '<' :: back) =
      Text.lowerAscii front ++ '<' :: Text.lowerAscii back := by
    rw [Text.lowerAscii, List.map_append]
    rfl
  rw [found, lowered, Text.occurrences_append_cons (less_not_mem_spelling format)]
  rfl

private theorem exists_defaultElement_eq (format : ImageFormat) :
    ∃ rest, defaultElement format = '<' :: rest ∧
      ∀ other, found other rest = if other = format then 1 else 0 := by
  refine ⟨(defaultElement format).tail, ?_, fun other => ?_⟩
  · cases format <;> rfl
  · cases format <;> cases other <;> decide +kernel

theorem isElement_defaultElement (format : ImageFormat) : Markup.IsElement (defaultElement format) := by
  have found : Markup.takeElement? (defaultElement format) = some (defaultElement format, []) := by
    cases format <;> decide +kernel
  exact (Markup.takeElement?_eq_some.mp found).1

theorem isElement_rootEnd : Markup.IsElement rootEnd :=
  ⟨"/Types".toList, by decide, rfl⟩

theorem declaresExtension_defaultElement (format other : ImageFormat) :
    declaresExtension other.extension (defaultElement format) = decide (other = format) := by
  cases format <;> cases other <;> decide +kernel

section Adding

variable {front back : Markup}

private theorem exists_less_withDefaults (back : Markup) (added : List ImageFormat) :
    ∃ rest, added.flatMap defaultElement ++ (rootEnd ++ back) = '<' :: rest := by
  cases added with
  | nil => exact ⟨"/Types>".toList ++ back, rfl⟩
  | cons format rest =>
      obtain ⟨inner, spelled, -⟩ := exists_defaultElement_eq format
      exact ⟨_, by rw [List.flatMap_cons, spelled, List.append_assoc, List.cons_append]⟩

/-- A format is found if it was found before or is one of those that were added. -/
theorem declares_withDefaults (front back : Markup) (added : List ImageFormat) (format : ImageFormat) :
    declares (withDefaults front back added) format = false ↔
      declares (withDefaults front back []) format = false ∧ format ∉ added := by
  simp only [declares_eq_false, withDefaults, List.append_assoc]
  induction added with
  | nil => simp
  | cons first rest ih =>
      obtain ⟨inner, spelled, counted⟩ := exists_defaultElement_eq first
      obtain ⟨behind, begins⟩ := exists_less_withDefaults back rest
      rw [List.flatMap_cons, spelled, List.append_assoc, List.cons_append, begins,
        found_append_less, found_append_less, counted]
      rw [begins, found_append_less] at ih
      rw [List.mem_cons, not_or]
      by_cases here : format = first
      · simp [here]
      · simp only [here, if_false, not_false_eq_true, true_and, Nat.zero_add]
        exact ih

theorem ensure_withDefaults (last : ¬ rootEnd <:+: rootEnd.tail ++ back) (added : List ImageFormat)
    (format : ImageFormat) :
    ensure (withDefaults front back added) format =
      if declares (withDefaults front back added) format then withDefaults front back added
      else withDefaults front back (added ++ [format]) := by
  have cut : Text.cutLast? rootEnd (withDefaults front back added) =
      some (front ++ added.flatMap defaultElement, back) :=
    (Text.cutLast?_eq_some_iff (by decide)).mpr ⟨rfl, last⟩
  rw [ensure, cut]
  split
  · rfl
  · simp only [withDefaults, List.flatMap_append, List.flatMap_cons, List.flatMap_nil, List.append_nil,
      List.append_assoc]

/-- Declaring formats adds those that are not found, each once. -/
theorem exists_foldl_ensure_withDefaults (front : Markup) (last : ¬ rootEnd <:+: rootEnd.tail ++ back)
    {added : List ImageFormat} (distinct : added.Nodup) (formats : List ImageFormat) :
    ∃ all, formats.foldl ensure (withDefaults front back added) = withDefaults front back all ∧
      all.Nodup ∧ ∀ format, format ∈ all ↔ format ∈ added ∨
        format ∈ formats ∧ declares (withDefaults front back []) format = false := by
  induction formats generalizing added with
  | nil => exact ⟨added, rfl, distinct, by simp⟩
  | cons first rest ih =>
      rw [List.foldl_cons, ensure_withDefaults last]
      cases there : declares (withDefaults front back added) first with
      | true =>
          obtain ⟨all, folded, distinct, mem⟩ := ih distinct
          refine ⟨all, folded, distinct, fun format => (mem format).trans ?_⟩
          -- a format that is found now and was not before is among the added ones
          have old : declares (withDefaults front back []) first = false → first ∈ added := by
            intro absent
            by_contra new
            rw [(declares_withDefaults front back added first).mpr ⟨absent, new⟩] at there
            cases there
          rw [List.mem_cons]
          constructor
          · exact Or.imp_right (And.imp_left .inr)
          · rintro (earlier | ⟨rfl | later, absent⟩)
            · exact .inl earlier
            · exact .inl (old absent)
            · exact .inr ⟨later, absent⟩
      | false =>
          obtain ⟨absent, new⟩ := (declares_withDefaults front back added first).mp there
          have longer : (added ++ [first]).Nodup := by
            rw [← List.concat_eq_append]
            exact List.Nodup.concat new distinct
          obtain ⟨all, folded, distinct, mem⟩ := ih longer
          refine ⟨all, folded, distinct, fun format => (mem format).trans ?_⟩
          rw [List.mem_append, List.mem_singleton, List.mem_cons]
          constructor
          · rintro ((earlier | rfl) | ⟨later, unfound⟩)
            · exact .inl earlier
            · exact .inr ⟨.inl rfl, absent⟩
            · exact .inr ⟨.inr later, unfound⟩
          · rintro (earlier | ⟨rfl | later, unfound⟩)
            · exact .inl (.inl earlier)
            · exact .inl (.inr rfl)
            · exact .inr ⟨later, unfound⟩

theorem elements_withDefaults (front back : Markup) (added : List ImageFormat) :
    Markup.elements (withDefaults front back added) =
      Markup.elements front ++ added.map defaultElement ++ rootEnd :: Markup.elements back := by
  have behind (added : List ImageFormat) :
      Markup.elements (added.flatMap defaultElement ++ (rootEnd ++ back)) =
        added.map defaultElement ++ rootEnd :: Markup.elements back := by
    induction added with
    | nil => exact Markup.elements_of_isElement isElement_rootEnd back
    | cons first rest ih =>
        rw [List.flatMap_cons, List.append_assoc,
          Markup.elements_of_isElement (isElement_defaultElement first), ih, List.map_cons,
          List.cons_append]
  have apart : ¬ Markup.Spans front (added.flatMap defaultElement ++ (rootEnd ++ back)) := by
    rintro ⟨-, closed⟩
    obtain ⟨rest, begins⟩ := exists_less_withDefaults back added
    rw [begins] at closed
    cases closed
  rw [withDefaults, List.append_assoc, List.append_assoc, Markup.elements_append apart, behind,
    List.append_assoc]

end Adding

/-- Declarations behind those of formats: every element that there was is still there, in its place
    among the others, each format is declared, and nothing is added for one that was. -/
structure Declared (types : Markup) (formats : List ImageFormat) (after : Markup) : Prop where
  kept : (Markup.elements types).Sublist (Markup.elements after)
  /-- A format has one declaration, or those that it had. -/
  once : ∀ format ∈ formats,
    (declarations after format).length = max 1 (declarations types format).length
  /-- What is added are the declarations of formats that had none. -/
  added : ∃ front back added, types = front ++ rootEnd ++ back ∧
    after = withDefaults front back added ∧ added.Nodup ∧
    ∀ format, format ∈ added ↔ format ∈ formats ∧ declarations types format = []

/-- Formats are declared where the end tag of the root and the declarations that there are are found,
    in any order and however often they are asked for. -/
theorem declared_foldl_ensure {types : Markup} (closed : rootEnd <:+: types)
    {formats : List ImageFormat} (legible : ∀ format ∈ formats, Legible types format) :
    Declared types formats (formats.foldl ensure types) := by
  obtain ⟨cut, found⟩ : ∃ cut, Text.cutLast? rootEnd types = some cut := by
    cases searched : Text.cutLast? rootEnd types with
    | none => exact absurd closed (Text.not_infix_of_cutLast? searched)
    | some cut => exact ⟨cut, rfl⟩
  obtain ⟨front, back⟩ := cut
  obtain ⟨whole, last⟩ := (Text.cutLast?_eq_some_iff (by decide)).mp found
  have start : types = withDefaults front back [] := by
    rw [withDefaults, List.flatMap_nil, List.append_nil, whole]
  obtain ⟨added, folded, distinct, mem⟩ :=
    exists_foldl_ensure_withDefaults front last List.nodup_nil formats
  rw [← start] at folded mem
  have new : ∀ format, format ∈ added ↔ format ∈ formats ∧ declarations types format = [] := by
    intro format
    rw [mem format]
    simp only [List.not_mem_nil, false_or]
    exact and_congr_right fun listed => (legible format listed).declares_eq_false
  have elements := elements_withDefaults front back added
  have before := elements_withDefaults front back []
  rw [← start, List.map_nil, List.append_nil] at before
  constructor
  case kept =>
    rw [folded, elements, before]
    exact (List.sublist_append_left _ _).append (List.Sublist.refl _)
  case once =>
    intro format listed
    have own : (added.map defaultElement).filter (declaresExtension format.extension) =
        (added.filter (format = ·)).map defaultElement := by
      rw [List.filter_map]
      refine congrArg _ (List.filter_congr fun other _ => ?_)
      exact declaresExtension_defaultElement other format
    have counted : (declarations (formats.foldl ensure types) format).length =
        (declarations types format).length + added.count format := by
      rw [declarations, declarations, folded, elements, before]
      simp only [List.filter_append, own, List.length_append, List.length_map, List.count,
        List.countP_eq_length_filter, beq_eq_decide, eq_comm]
      omega
    rw [counted]
    by_cases there : declarations types format = []
    · rw [there, List.count_eq_one_of_mem distinct ((new format).mpr ⟨listed, there⟩)]
      rfl
    · rw [List.count_eq_zero_of_not_mem fun listed => there ((new format).mp listed).2]
      have positive := List.length_pos_iff.mpr there
      omega
  case added => exact ⟨front, back, added, whole, folded, distinct, new⟩

end Stencil.ContentTypes
