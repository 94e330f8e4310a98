import Mathlib.Data.List.Forall2
import Mathlib.Data.List.Nodup
import Stencil.Proofs.Package.Document

/-! # Extended documents

Parts that are set stay in their places, and parts that are added stand behind all others. So a
document that was set any number of times extends the one it began as.

Main statements: `Document.Extends.set`, `Document.Extends.part?_eq`.
-/

namespace Stencil

namespace Part

@[simp] theorem name_withContent (part : Part) (content : PartContent) :
    (part.withContent content).name = part.name := by
  rw [withContent]
  split <;> rfl

@[simp] theorem original_withContent (part : Part) (content : PartContent) :
    (part.withContent content).original = part.original := by
  rw [withContent]
  split <;> rfl

@[simp] theorem content_withContent (part : Part) (content : PartContent) :
    (part.withContent content).content = content := by
  rw [withContent]
  split
  · next same => exact same
  · rfl

/-- A part is modified once its content has changed. -/
theorem modified_withContent (part : Part) (content : PartContent) :
    (part.withContent content).modified = (part.modified || decide (part.content ≠ content)) := by
  rw [withContent]
  split
  · next same => simp [same]
  · next other => simp [other]

end Part

/-- A part in place of an old one: the same part, unless its name is among those that may change. -/
structure Part.Keeps (changing : String → Prop) (old new : Part) : Prop where
  name : new.name = old.name
  original : new.original = old.original
  content : new = old ∨ changing old.name ∧ new.modified = true

namespace Document

/-- The parts of one document are in their places in another one, the same but for some names, and
    the added parts have new names and stand behind them. -/
structure Extends (before : Document) (changing : String → Prop) (added : List Part)
    (after : Document) : Prop where
  source : after.source = before.source
  entries : after.entries = before.entries
  parts : ∃ kept, after.parts = kept ++ added ∧
    List.Forall₂ (Part.Keeps changing) before.parts kept
  new : ∀ part ∈ added, before.contains part.name = false ∧ part.original = false ∧
    part.modified = true
  distinct : (added.map Part.name).Nodup

theorem setIn_append {name : String} {content : PartContent} {front : List Part}
    (there : name ∈ front.map Part.name) (back : List Part) :
    setIn name content (front ++ back) = setIn name content front ++ back := by
  induction front with
  | nil => cases there
  | cons part rest ih =>
      rw [List.cons_append, setIn, setIn]
      split
      · rfl
      · next other =>
        rw [List.map_cons, List.mem_cons] at there
        rw [ih (there.resolve_left (Ne.symm other)), List.cons_append]

theorem setIn_append_of_notMem {name : String} {content : PartContent} {front : List Part}
    (absent : name ∉ front.map Part.name) (back : List Part) :
    setIn name content (front ++ back) = front ++ setIn name content back := by
  induction front with
  | nil => rfl
  | cons part rest ih =>
      rw [List.map_cons, List.mem_cons, not_or] at absent
      rw [List.cons_append, setIn, if_neg (Ne.symm absent.1), ih absent.2, List.cons_append]

/-- A part that is set keeps its place among the others, and a new one is the last. -/
theorem map_name_setIn (name : String) (content : PartContent) (parts : List Part) :
    (setIn name content parts).map Part.name =
      if name ∈ parts.map Part.name then parts.map Part.name else parts.map Part.name ++ [name] := by
  induction parts with
  | nil => rfl
  | cons part rest ih =>
      rw [setIn]
      split
      · next here => simp [here]
      · next other =>
        simp only [List.map_cons, ih, List.mem_cons, Ne.symm other, false_or]
        split <;> rfl

theorem forall_setIn {p : Part → Prop} {name : String} {content : PartContent} {parts : List Part}
    (old : ∀ part ∈ parts, p part)
    (changed : ∀ part ∈ parts, part.name = name → p (part.withContent content))
    (new : name ∉ parts.map Part.name →
      p { name, content, original := false, modified := true }) :
    ∀ part ∈ setIn name content parts, p part := by
  induction parts with
  | nil => exact List.forall_mem_singleton.mpr (new List.not_mem_nil)
  | cons part rest ih =>
      rw [List.forall_mem_cons] at old changed
      rw [setIn]
      split
      · next here => exact List.forall_mem_cons.mpr ⟨changed.1 here, old.2⟩
      · next other =>
        refine List.forall_mem_cons.mpr ⟨old.1, ih old.2 changed.2 fun absent => new ?_⟩
        rw [List.map_cons, List.mem_cons, not_or]
        exact ⟨Ne.symm other, absent⟩

theorem forall₂_setIn {α : Type} {R : α → Part → Prop} {name : String} {content : PartContent}
    {olds : List α} {parts : List Part} (there : name ∈ parts.map Part.name)
    (related : List.Forall₂ R olds parts)
    (changed : ∀ old part, R old part → part.name = name → R old (part.withContent content)) :
    List.Forall₂ R olds (setIn name content parts) := by
  induction related with
  | nil => cases there
  | @cons old part olds rest first later ih =>
      rw [setIn]
      split
      · next here => exact .cons (changed old part first here) later
      · next other =>
        rw [List.map_cons, List.mem_cons] at there
        exact .cons first (ih (there.resolve_left (Ne.symm other)))

namespace Extends

variable {before after : Document} {changing : String → Prop} {added : List Part}

/-- A document extends itself. -/
theorem refl (document : Document) (changing : String → Prop) :
    Extends document changing [] document where
  source := rfl
  entries := rfl
  parts := ⟨document.parts, (List.append_nil _).symm,
    List.forall₂_same.mpr fun _ _ => ⟨rfl, rfl, .inl rfl⟩⟩
  new := by simp
  distinct := List.nodup_nil

theorem map_name_kept {olds kept : List Part}
    (h : List.Forall₂ (Part.Keeps changing) olds kept) :
    kept.map Part.name = olds.map Part.name := by
  induction h with
  | nil => rfl
  | cons first _ ih => rw [List.map_cons, List.map_cons, first.name, ih]

theorem original_of_keeps {changing : String → Prop} {olds kept : List Part}
    (keeps : List.Forall₂ (Part.Keeps changing) olds kept)
    (original : ∀ part ∈ olds, part.original = true) : ∀ part ∈ kept, part.original = true := by
  induction keeps with
  | nil => simp
  | cons keep _ ih =>
      rw [List.forall_mem_cons] at original
      exact List.forall_mem_cons.mpr ⟨keep.original.trans original.1, ih original.2⟩

/-- The names of the added parts stand behind the names that there were. -/
theorem names_eq (h : Extends before changing added after) :
    after.names = before.names ++ added.map Part.name := by
  obtain ⟨kept, parts, keeps⟩ := h.parts
  rw [names, parts, List.map_append, map_name_kept keeps, names]

theorem contains_of_contains (h : Extends before changing added after) {name : String}
    (there : before.contains name = true) : after.contains name = true := by
  rw [contains_iff, h.names_eq]
  exact List.mem_append_left _ (contains_iff.mp there)

/-- One part more is set: one that there was, or one that is or has been added. -/
theorem set (h : Extends before changing added after) {name : String} (content : PartContent)
    (changes : before.contains name = true → changing name) :
    Extends before changing
      (if before.contains name then added else setIn name content added)
      (after.set name content) := by
  obtain ⟨kept, parts, keeps⟩ := h.parts
  have names : kept.map Part.name = before.names := map_name_kept keeps
  have set : (after.set name content).parts = setIn name content (kept ++ added) :=
    congrArg (setIn name content) parts
  split
  · next there =>
    have mem : name ∈ kept.map Part.name := names ▸ contains_iff.mp there
    refine ⟨h.source, h.entries, ⟨setIn name content kept, ?_, ?_⟩, h.new, h.distinct⟩
    · rw [set, setIn_append mem]
    · refine forall₂_setIn mem keeps fun old part kept here => ?_
      refine ⟨(part.name_withContent content).trans kept.name,
        (part.original_withContent content).trans kept.original, ?_⟩
      by_cases same : part.content = content
      · rw [Part.withContent, if_pos same]
        exact kept.content
      · refine .inr ⟨?_, ?_⟩
        · rw [← kept.name, here]
          exact changes there
        · rw [Part.modified_withContent, decide_eq_true same, Bool.or_true]
  · next absent =>
    have absent := Bool.eq_false_iff.mpr absent
    have notMem : name ∉ kept.map Part.name := fun mem =>
      Bool.eq_false_iff.mp absent (contains_iff.mpr (names ▸ mem))
    refine ⟨h.source, h.entries, ⟨kept, ?_, keeps⟩, ?_, ?_⟩
    · rw [set, setIn_append_of_notMem notMem]
    · refine forall_setIn h.new (fun part mem here => ?_) fun _ => ⟨absent, rfl, rfl⟩
      obtain ⟨new, added, modified⟩ := h.new part mem
      rw [Part.name_withContent, Part.original_withContent, Part.modified_withContent, modified]
      exact ⟨new, added, rfl⟩
    · rw [map_name_setIn]
      split
      · exact h.distinct
      · next fresh =>
        rw [← List.concat_eq_append]
        exact List.Nodup.concat fresh h.distinct

/-- A part that there was is set. -/
theorem change (h : Extends before changing added after) {name : String}
    (there : before.contains name = true) (changes : changing name) (content : PartContent) :
    Extends before changing added (after.set name content) := by
  have next := h.set content fun _ => changes
  rwa [if_pos there] at next

/-- A part that is not there is added. -/
theorem add (h : Extends before changing added after) {name : String}
    (absent : after.contains name = false) (content : PartContent) :
    Extends before changing
      (added ++ [{ name, content, original := false, modified := true }])
      (after.set name content) := by
  have new : before.contains name = false := Bool.eq_false_iff.mpr fun there =>
    Bool.eq_false_iff.mp absent (h.contains_of_contains there)
  have unadded : name ∉ added.map Part.name := by
    rw [← Bool.not_eq_true, contains_iff, h.names_eq, List.mem_append, not_or] at absent
    exact absent.2
  have next := h.set content fun there => absurd there (Bool.eq_false_iff.mp new)
  have last : setIn name content added =
      added ++ [{ name, content, original := false, modified := true }] := by
    conv_lhs => rw [← List.append_nil added, setIn_append_of_notMem unadded]
    rfl
  rwa [if_neg (Bool.eq_false_iff.mp new), last] at next

theorem find?_kept {olds kept : List Part} (h : List.Forall₂ (Part.Keeps changing) olds kept)
    {name : String} (fixed : ¬ changing name) :
    kept.find? (fun part => part.name = name) = olds.find? fun part => part.name = name := by
  induction h with
  | nil => rfl
  | @cons old new olds kept first _ ih =>
      rw [List.find?_cons, List.find?_cons, first.name, ih]
      by_cases here : old.name = name
      · rcases first.content with same | ⟨changes, -⟩
        · rw [same]
        · exact absurd (here ▸ changes) fixed
      · simp only [here, decide_false]

/-- A part that may not change is found as it was. -/
theorem part?_eq (h : Extends before changing added after) {name : String}
    (fixed : ¬ changing name) (old : name ∉ added.map Part.name) :
    after.part? name = before.part? name := by
  obtain ⟨kept, parts, keeps⟩ := h.parts
  have unadded : added.find? (fun part => part.name = name) = none := by
    rw [List.find?_eq_none]
    exact fun part mem same => old (List.mem_map.mpr ⟨part, mem, of_decide_eq_true same⟩)
  rw [part?, part?, parts, List.find?_append, unadded, Option.or_none, find?_kept keeps fixed]

/-- Documents that extend one document are told by their parts. -/
theorem eq_of_parts {changing' : String → Prop} {added' : List Part} {other : Document}
    (h : Extends before changing added after) (h' : Extends before changing' added' other)
    (same : after.parts = other.parts) : after = other := by
  obtain ⟨_, _, _⟩ := after
  obtain ⟨_, _, _⟩ := other
  cases h.source.trans h'.source.symm
  cases h.entries.trans h'.entries.symm
  cases same
  rfl

/-- A document without added parts of which nothing may change is the one it began as. -/
theorem eq_of_fixed (h : Extends before changing [] after) (fixed : ∀ name, ¬ changing name) :
    after = before := by
  obtain ⟨kept, parts, keeps⟩ := h.parts
  have same : before.parts = kept := List.forall₂_eq_eq_eq ▸ keeps.imp fun old _ part =>
    (part.content.resolve_right fun changed => fixed _ changed.1).symm
  rw [List.append_nil, ← same] at parts
  exact h.eq_of_parts (refl before changing) parts

end Extends

end Document

end Stencil
