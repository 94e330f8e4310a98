import Stencil.Package.Document

/-! # Documents whose parts are set

Setting a part changes what is found under its own name and under no other. A part that is there
stays there.
-/

namespace Stencil.Document

private theorem find?_setIn_self (name : String) (content : PartContent) (parts : List Part) :
    ((setIn name content parts).find? fun part => part.name = name).map Part.content =
      some content := by
  induction parts with
  | nil => simp [setIn]
  | cons part rest ih =>
      rw [setIn]
      split
      · next here =>
        by_cases same : part.content = content
        · simp [Part.withContent, same, here]
        · simp [Part.withContent, same, here]
      · next other => simp [other, ih]

private theorem find?_setIn_of_ne {name other : String} (h : other ≠ name) (content : PartContent)
    (parts : List Part) :
    (setIn name content parts).find? (fun part => part.name = other) =
      parts.find? fun part => part.name = other := by
  induction parts with
  | nil => simp [setIn, h.symm]
  | cons part rest ih =>
      rw [setIn]
      split
      · next here =>
        have elsewhere : ¬ (part.withContent content).name = other := by
          rw [Part.withContent]
          split <;> exact fun same => h (same.symm.trans here)
        have elsewhere' : ¬ part.name = other := fun same => h (same.symm.trans here)
        simp [elsewhere, elsewhere']
      · by_cases there : part.name = other
        · simp [there]
        · simp [there, ih]

@[simp] theorem content?_set_self (document : Document) (name : String) (content : PartContent) :
    (document.set name content).content? name = some content :=
  find?_setIn_self name content document.parts

theorem part?_set_of_ne {name other : String} (h : other ≠ name) (document : Document)
    (content : PartContent) : (document.set name content).part? other = document.part? other :=
  find?_setIn_of_ne h content document.parts

theorem content?_set_of_ne {name other : String} (h : other ≠ name) (document : Document)
    (content : PartContent) :
    (document.set name content).content? other = document.content? other := by
  rw [content?, part?_set_of_ne h]
  rfl

theorem markup?_of_content? {document : Document} {name : String} {text : Markup}
    (h : document.content? name = some (.markup text)) : document.markup? name = some text := by
  rw [markup?, h]
  rfl

theorem contains_eq_isSome (document : Document) (name : String) :
    document.contains name = (document.content? name).isSome := by
  rw [contains, content?, Option.isSome_map]

theorem contains_set (document : Document) (name other : String) (content : PartContent) :
    (document.set name content).contains other =
      (decide (other = name) || document.contains other) := by
  by_cases same : other = name
  · simp [contains_eq_isSome, same]
  · simp [contains, part?_set_of_ne same, same]

/-- A part is found under a name exactly when the document has a part of the name. -/
theorem contains_iff {document : Document} {name : String} :
    document.contains name = true ↔ name ∈ document.names := by
  simp [contains, part?, names, List.find?_isSome]

theorem contains_eq_of_names {document document' : Document} (same : document'.names = document.names)
    (name : String) : document'.contains name = document.contains name := by
  rw [Bool.eq_iff_iff, contains_iff, contains_iff, same]

/-- All of the names are there. -/
theorem require_eq_ok_iff {document : Document} {names : List String} :
    document.require names = .ok () ↔ ∀ name ∈ names, document.contains name = true := by
  rw [require]
  cases missing : names.find? fun name => !document.contains name with
  | none => simpa using List.find?_eq_none.mp missing
  | some name =>
      have absent := List.find?_some missing
      refine iff_of_false nofun fun there => ?_
      rw [there name (List.mem_of_find?_eq_some missing)] at absent
      cases absent

theorem isTemplate_of_mem_templateNames {document : Document} {name : String}
    (h : name ∈ document.templateNames) : PartName.isTemplate name = true :=
  (List.mem_filter.mp h).2

theorem name_of_part? {document : Document} {name : String} {part : Part}
    (found : document.part? name = some part) : part.name = name := by
  simpa using List.find?_some found

theorem part?_of_mem {document : Document} {part : Part} (distinct : document.names.Nodup)
    (mem : part ∈ document.parts) : document.part? part.name = some part := by
  unfold names at distinct
  unfold part?
  generalize document.parts = parts at distinct mem
  induction parts with
  | nil => cases mem
  | cons first rest ih =>
      rw [List.map_cons, List.nodup_cons] at distinct
      rcases List.mem_cons.mp mem with rfl | later
      · exact List.find?_cons_of_pos (decide_eq_true rfl)
      · have other : first.name ≠ part.name := fun same =>
          distinct.1 (List.mem_map.mpr ⟨part, later, same.symm⟩)
        rw [List.find?_cons_of_neg (by simpa using other), ih distinct.2 later]

end Stencil.Document
