import Mathlib.Data.List.Induction
import Stencil.Proofs.Package.Extension

/-! # Sequences of edits

However often parts are set, each part that there was keeps its place, the new ones stand behind
them in the order of their first edits, and every part has the content it was last set to. A part
that was only ever set to the content it had is the same part as before.

Main statements: `Document.exists_extends_edit`, `Document.content?_edit`.
-/

namespace Stencil

/-- A part of the name is set to the content, text or binary. -/
structure Edit where
  name : String
  content : PartContent

namespace Document

/-- The document behind a sequence of edits. -/
def edit (document : Document) (edits : List Edit) : Document :=
  edits.foldl (fun document edit => document.set edit.name edit.content) document

/-- The names that edits add to a document, in the order of their first edits. -/
def addedNames (document : Document) (edits : List Edit) : List String :=
  ((edits.map Edit.name).filter fun name => !document.contains name).eraseDups

/-- Every edit of the name sets the content that the document has there. -/
def Untouched (document : Document) (edits : List Edit) (name : String) : Prop :=
  ∀ edit ∈ edits, edit.name = name → document.content? name = some edit.content

variable (document : Document) (edits : List Edit) (last : Edit)

theorem edit_concat :
    document.edit (edits ++ [last]) = (document.edit edits).set last.name last.content := by
  rw [edit, edit, List.foldl_append]
  rfl

variable {document edits last}

theorem addedNames_concat_of_contains (there : document.contains last.name = true) :
    document.addedNames (edits ++ [last]) = document.addedNames edits := by
  simp [addedNames, there]

theorem eraseDups_concat (names : List String) (name : String) :
    (names ++ [name]).eraseDups =
      if name ∈ names then names.eraseDups else names.eraseDups ++ [name] := by
  rw [List.eraseDups_append, List.removeAll, List.filter_cons, List.filter_nil]
  split_ifs with kept known known
  · simp [known] at kept
  · rfl
  · exact List.append_nil _
  · simp [known] at kept

theorem addedNames_concat_of_absent (absent : document.contains last.name = false) :
    document.addedNames (edits ++ [last]) =
      if last.name ∈ document.addedNames edits then document.addedNames edits
      else document.addedNames edits ++ [last.name] := by
  have new : [last.name].filter (fun name => !document.contains name) = [last.name] := by
    simp [absent]
  simp only [addedNames, List.map_append, List.map_singleton, List.filter_append, new,
    eraseDups_concat, List.mem_eraseDups]

theorem mem_addedNames {name : String} :
    name ∈ document.addedNames edits ↔
      (∃ edit ∈ edits, edit.name = name) ∧ document.contains name = false := by
  simp [addedNames, List.mem_eraseDups]

theorem Untouched.of_concat {name : String} (h : document.Untouched (edits ++ [last]) name) :
    document.Untouched edits name :=
  fun edit mem => h edit (List.mem_append_left _ mem)

private theorem setIn_of_find? {name : String} {content : PartContent} {parts : List Part}
    (there : (parts.find? fun part => part.name = name).map Part.content = some content) :
    setIn name content parts = parts := by
  induction parts with
  | nil => cases there
  | cons part rest ih =>
      rw [setIn]
      split
      · next here =>
        have same : part.content = content := by simpa [here] using there
        rw [Part.withContent, if_pos same]
      · next other =>
        rw [List.find?_cons_of_neg (by simpa using other)] at there
        rw [ih there]

/-- A part that is set to the content it has leaves the document as it is. -/
theorem set_of_content? {name : String} {content : PartContent}
    (there : document.content? name = some content) : document.set name content = document := by
  rw [set, setIn_of_find? there]

/-- Edits that change nothing leave the document as it is. -/
theorem edit_of_content?
    (same : ∀ edit ∈ edits, document.content? edit.name = some edit.content) :
    document.edit edits = document := by
  induction edits with
  | nil => rfl
  | cons first rest ih =>
      rw [List.forall_mem_cons] at same
      rw [edit, List.foldl_cons, set_of_content? same.1]
      exact ih same.2

theorem Extends.mono {changing changing' : String → Prop} {added : List Part} {after : Document}
    (h : document.Extends changing added after) (more : ∀ name, changing name → changing' name) :
    document.Extends changing' added after where
  source := h.source
  entries := h.entries
  parts := by
    obtain ⟨kept, parts, keeps⟩ := h.parts
    refine ⟨kept, parts, keeps.imp fun old new part => ⟨part.name, part.original, ?_⟩⟩
    exact part.content.imp_right fun changed => ⟨more _ changed.1, changed.2⟩
  new := h.new
  distinct := h.distinct

variable (document edits)

/-- Edits extend a document by the added parts, and leave untouched parts as they are. -/
theorem exists_extends_edit :
    ∃ added, document.Extends (fun name => ¬ document.Untouched edits name) added
        (document.edit edits) ∧
      added.map Part.name = document.addedNames edits := by
  induction edits using List.reverseRecOn with
  | nil => exact ⟨[], .refl document _, rfl⟩
  | append_singleton edits last ih =>
      obtain ⟨added, frame, names⟩ := ih
      have more : ∀ name, ¬ document.Untouched edits name →
          ¬ document.Untouched (edits ++ [last]) name := fun _ => mt Untouched.of_concat
      have wider := frame.mono more
      rw [edit_concat]
      by_cases untouched : document.Untouched (edits ++ [last]) last.name
      · -- The part still is the one that was there, so the last edit does nothing.
        have content := untouched last (List.mem_concat_self ..) rfl
        have there : document.contains last.name = true := by
          rw [contains_eq_isSome, content]
          rfl
        have unadded : last.name ∉ added.map Part.name := fun mem => by
          rw [names, mem_addedNames, there] at mem
          cases mem.2
        have same : (document.edit edits).content? last.name = some last.content := by
          rw [content?, frame.part?_eq (not_not_intro untouched.of_concat) unadded]
          exact content
        rw [set_of_content? same, addedNames_concat_of_contains there]
        exact ⟨added, wider, names⟩
      · refine ⟨_, wider.set last.content fun _ => untouched, ?_⟩
        cases there : document.contains last.name with
        | true => rw [if_pos rfl, names, addedNames_concat_of_contains there]
        | false =>
            rw [if_neg Bool.false_ne_true, map_name_setIn, names, addedNames_concat_of_absent there]

/-- A part has the content it was last set to. -/
theorem content?_edit (name : String) :
    (document.edit edits).content? name =
      ((edits.reverse.find? fun edit => edit.name = name).map Edit.content).or
        (document.content? name) := by
  induction edits using List.reverseRecOn with
  | nil => rfl
  | append_singleton edits last ih =>
      rw [edit_concat, List.reverse_concat, List.find?_cons]
      by_cases here : last.name = name
      · rw [← here, content?_set_self]
        simp
      · rw [content?_set_of_ne (Ne.symm here), ih]
        simp [here]

/-- A part behind edits is one that there was or has name and content of an edit. -/
theorem forall_mem_parts_edit :
    ∀ part ∈ (document.edit edits).parts, part ∈ document.parts ∨
      ∃ edit ∈ edits, edit.name = part.name ∧ edit.content = part.content := by
  induction edits using List.reverseRecOn with
  | nil => exact fun part mem => .inl mem
  | append_singleton edits last ih =>
      rw [edit_concat]
      refine forall_setIn (fun old listed => ?_) (fun old _ here => ?_) (fun _ => ?_)
      · refine (ih old listed).imp_right ?_
        rintro ⟨edit, listed, same⟩
        exact ⟨edit, List.mem_append_left _ listed, same⟩
      · refine .inr ⟨last, List.mem_concat_self .., ?_, (Part.content_withContent ..).symm⟩
        rw [Part.name_withContent, here]
      · exact .inr ⟨last, List.mem_concat_self .., rfl, rfl⟩

end Document

end Stencil
