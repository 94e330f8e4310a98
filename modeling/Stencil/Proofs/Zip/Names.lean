import Mathlib.Data.List.Nodup
import Stencil.Zip.Directory
import Stencil.Zip.Draft

/-! # Names of entries

The entries of a container that was read have different names, and entries that have different
names are all kept. Only such entries are written.

Main statements: `nodup_uniqueByName`, `uniqueByName_of_nodup`, `write_eq_ok`.
-/

namespace Stencil.Zip

namespace NamedEntries

/-- The index of each name is that of the entry with the name. -/
def Indexed (named : NamedEntries) : Prop :=
  ∀ (name : String) (index : Nat), named.indices[name]? = some index ↔
    (named.entries.toList.map Entry.name)[index]? = some name

theorem Indexed.nodup {named : NamedEntries} (h : named.Indexed) :
    (named.entries.toList.map Entry.name).Nodup := by
  rw [List.nodup_iff_injective_get]
  intro one other same
  have first := (h _ one.val).mpr (List.getElem?_eq_getElem one.isLt)
  have second := (h _ other.val).mpr (List.getElem?_eq_getElem other.isLt)
  rw [← List.get_eq_getElem] at first second
  rw [same] at first
  exact Fin.ext (Option.some.inj (first.symm.trans second))

theorem indexed_empty : Indexed { entries := #[], indices := ∅ } := by
  intro name index
  simp

variable {named : NamedEntries} {entry : Entry}

theorem Indexed.getElem?_eq_none (h : named.Indexed) {name : String} :
    named.indices[name]? = none ↔ name ∉ named.entries.toList.map Entry.name := by
  rw [Option.eq_none_iff_forall_ne_some, List.mem_iff_getElem?, not_exists]
  exact forall_congr' fun index => not_congr (h name index)

/-- An entry with a new name is put behind the others. -/
theorem insert_of_new (h : named.Indexed)
    (new : entry.name ∉ named.entries.toList.map Entry.name) :
    named.insert entry =
      { entries := named.entries.push entry
        indices := named.indices.insert entry.name named.entries.size } := by
  rw [insert]
  simp only [h.getElem?_eq_none.mpr new]

/-- An entry with a known name takes the place of the one it had. -/
theorem map_name_insert_of_known (h : named.Indexed)
    (known : entry.name ∈ named.entries.toList.map Entry.name) :
    (named.insert entry).indices = named.indices ∧
      (named.insert entry).entries.toList.map Entry.name =
        named.entries.toList.map Entry.name := by
  obtain ⟨index, here⟩ := List.mem_iff_getElem?.mp known
  rw [insert]
  simp only [(h _ _).mpr here, true_and]
  obtain ⟨inside, same⟩ := List.getElem?_eq_some_iff.mp here
  rw [Array.toList_setIfInBounds, List.map_set, ← same, List.set_getElem_self]

theorem Indexed.insert (h : named.Indexed) (entry : Entry) : (named.insert entry).Indexed := by
  by_cases known : entry.name ∈ named.entries.toList.map Entry.name
  · obtain ⟨indices, names⟩ := map_name_insert_of_known h known
    intro name index
    rw [indices, names]
    exact h name index
  · intro name index
    rw [insert_of_new h known]
    simp only [Array.toList_push, List.map_append, List.map_singleton,
      Std.HashMap.getElem?_insert]
    have size : (named.entries.toList.map Entry.name).length = named.entries.size := by simp
    by_cases inside : index < (named.entries.toList.map Entry.name).length
    · rw [List.getElem?_append_left inside, ← h]
      split
      · next same =>
        have absent := h.getElem?_eq_none.mpr known
        rw [← eq_of_beq same, absent, Option.some.injEq]
        exact iff_of_false (by omega) (by simp)
      · rfl
    · rw [List.getElem?_append_right (Nat.le_of_not_lt inside), List.getElem?_singleton]
      split
      · next same =>
        rw [← eq_of_beq same, Option.some.injEq]
        split
        · exact iff_of_true (by omega) rfl
        · exact iff_of_false (by omega) (by simp)
      · next other =>
        have behind : (named.entries.toList.map Entry.name)[index]? ≠ some name := by
          rw [List.getElem?_eq_none (Nat.le_of_not_lt inside)]
          simp
        refine iff_of_false (fun found => behind ((h _ _).mp found)) ?_
        split
        · exact fun same => other (beq_of_eq (Option.some.inj same))
        · simp

end NamedEntries

/-- Entries that were read have different names. -/
theorem nodup_uniqueByName (entries : List Entry) :
    ((uniqueByName entries).map Entry.name).Nodup := by
  have indexed : ∀ named : NamedEntries, named.Indexed →
      (entries.foldl NamedEntries.insert named).Indexed := by
    induction entries with
    | nil => exact fun _ h => h
    | cons entry rest ih => exact fun named h => ih _ (h.insert entry)
  exact (indexed _ NamedEntries.indexed_empty).nodup

/-- Entries with different names are all kept. -/
theorem uniqueByName_of_nodup {entries : List Entry} (distinct : (entries.map Entry.name).Nodup) :
    uniqueByName entries = entries := by
  have kept : ∀ named : NamedEntries, named.Indexed →
      (named.entries.toList.map Entry.name ++ entries.map Entry.name).Nodup →
      (entries.foldl NamedEntries.insert named).entries.toList =
        named.entries.toList ++ entries := by
    induction entries with
    | nil => exact fun named _ _ => (List.append_nil _).symm
    | cons entry rest ih =>
        intro named h apart
        rw [List.map_cons] at apart distinct
        have new : entry.name ∉ named.entries.toList.map Entry.name := fun mem =>
          (List.nodup_append.mp apart).2.2 _ mem _ List.mem_cons_self rfl
        have indexed := h.insert entry
        rw [NamedEntries.insert_of_new h new] at indexed
        rw [List.foldl_cons, NamedEntries.insert_of_new h new,
          ih (List.nodup_cons.mp distinct).2 _ indexed, Array.toList_push, List.append_assoc,
          List.singleton_append]
        rwa [Array.toList_push, List.map_append, List.map_singleton, List.append_assoc,
          List.singleton_append]
  exact (kept _ NamedEntries.indexed_empty distinct).trans (List.nil_append _)

/-- What holds of all entries holds of those that are kept. -/
theorem forall_uniqueByName {p : Entry → Prop} {entries : List Entry}
    (h : ∀ entry ∈ entries, p entry) : ∀ entry ∈ uniqueByName entries, p entry := by
  have kept : ∀ named : NamedEntries, (∀ entry ∈ named.entries, p entry) →
      ∀ entry ∈ (entries.foldl NamedEntries.insert named).entries, p entry := by
    induction entries with
    | nil => exact fun _ h => h
    | cons entry rest ih =>
        intro named before
        rw [List.forall_mem_cons] at h
        refine ih h.2 _ fun other mem => ?_
        rw [NamedEntries.insert] at mem
        split at mem
        · rcases Array.mem_or_eq_of_mem_setIfInBounds mem with old | rfl
          · exact before other old
          · exact h.1
        · rcases Array.mem_push.mp mem with old | rfl
          · exact before other old
          · exact h.1
  exact fun entry mem => kept _ (by simp) entry (Array.mem_toList_iff.mp mem)

theorem duplicate?_eq_none {seen : Std.HashSet String} {names : List String} :
    duplicate? seen names = none ↔ names.Nodup ∧ ∀ name ∈ names, name ∉ seen := by
  induction names generalizing seen with
  | nil => exact iff_of_true rfl ⟨List.nodup_nil, by simp⟩
  | cons name rest ih =>
      rw [duplicate?, List.nodup_cons, List.forall_mem_cons]
      split
      · next there =>
        refine iff_of_false (by simp) fun new => ?_
        exact new.2.1 (Std.HashSet.mem_iff_contains.mpr there)
      · next absent =>
        rw [← Std.HashSet.mem_iff_contains] at absent
        rw [ih]
        simp only [Std.HashSet.mem_insert, not_or, beq_iff_eq]
        constructor
        · rintro ⟨distinct, new⟩
          refine ⟨⟨fun mem => (new name mem).1 rfl, distinct⟩, absent, ?_⟩
          exact fun other mem => (new other mem).2
        · rintro ⟨⟨fresh, distinct⟩, -, new⟩
          exact ⟨distinct, fun other mem => ⟨fun same => fresh (same ▸ mem), new other mem⟩⟩

/-- Entries are written exactly if they have different names. -/
theorem write_eq_ok {entries : List Entry} {bytes : ByteArray} :
    write entries = .ok bytes ↔ (entries.map Entry.name).Nodup ∧
      (entries.foldl Draft.add Draft.empty).finish = bytes := by
  rw [write]
  cases repeated : duplicate? ∅ (entries.map Entry.name) with
  | none =>
      have distinct := (duplicate?_eq_none.mp repeated).1
      simp only [distinct, true_and, Except.ok.injEq]
  | some name =>
      refine iff_of_false (by simp) fun written => ?_
      rw [duplicate?_eq_none.mpr ⟨written.1, fun _ _ => Std.HashSet.not_mem_empty⟩] at repeated
      cases repeated

end Stencil.Zip
