import Mathlib.Data.Bool.AllAny
import Stencil.Markup.Escape
import Stencil.Proofs.Markup.Elements

/-! # Escaped texts

Letters and digits of ASCII are written as they are, and no escaped text has a bracket or a
quote.
-/

namespace Stencil.Markup

@[simp] theorem escape_append (front back : List Char) :
    escape (front ++ back) = escape front ++ escape back :=
  List.flatMap_append

/-- A legal character without an entity is written as it is. -/
theorem escapeChar_of_isLegal {c : Char} (unnamed : ∀ entity ∈ entities, c ≠ entity.1)
    (legal : isLegal c = true) : escapeChar c = [c] := by
  have absent : entities.lookup c = none :=
    List.lookup_eq_none_iff.mpr fun entity mem => bne_iff_ne.mpr (unnamed entity mem)
  rw [escapeChar, absent, legal]
  rfl

theorem isLegal_of_isAlphanum {c : Char} (h : c.isAlphanum) : isLegal c = true := by
  change ((decide (c.val ≥ 'A'.val ∧ c.val ≤ 'Z'.val) || (c.val ≥ 'a'.val && c.val ≤ 'z'.val)) ||
    (c.val ≥ '0'.val && c.val ≤ '9'.val)) = true at h
  simp only [Bool.or_eq_true, Bool.and_eq_true, decide_eq_true_eq, UInt32.le_iff_toNat_le,
    ge_iff_le] at h
  change ((65 ≤ c.toNat ∧ c.toNat ≤ 90) ∨ (97 ≤ c.toNat ∧ c.toNat ≤ 122)) ∨
    (48 ≤ c.toNat ∧ c.toNat ≤ 57) at h
  have ordinary : '\u0020' ≤ c ∧ c ≤ '\ud7ff' := by
    simp only [Char.le_def, UInt32.le_iff_toNat_le]
    change 32 ≤ c.toNat ∧ c.toNat ≤ 55295
    omega
  simp [isLegal, ordinary]

theorem escapeChar_of_isAlphanum {c : Char} (h : c.isAlphanum) : escapeChar c = [c] := by
  refine escapeChar_of_isLegal ?_ (isLegal_of_isAlphanum h)
  rintro entity mem rfl
  have none : ∀ entity ∈ entities, entity.1.isAlphanum = false := by decide
  rw [none entity mem] at h
  cases h

theorem escape_eq_self {text : List Char} (h : ∀ c ∈ text, escapeChar c = [c]) :
    escape text = text := by
  induction text with
  | nil => rfl
  | cons c rest ih =>
      rw [List.forall_mem_cons] at h
      rw [escape, List.flatMap_cons, h.1]
      exact congrArg (c :: ·) (ih h.2)

theorem escape_of_isAlphanum {text : List Char} (h : ∀ c ∈ text, c.isAlphanum) :
    escape text = text :=
  escape_eq_self fun c mem => escapeChar_of_isAlphanum (h c mem)

/-- A character is written as its entity, as itself, or not at all. -/
theorem escapeChar_cases (c : Char) :
    (∃ name, (c, name) ∈ entities ∧ escapeChar c = '&' :: name ++ [';']) ∨
    ((∀ entity ∈ entities, c ≠ entity.1) ∧ isLegal c = true ∧ escapeChar c = [c]) ∨
    (isLegal c = false ∧ escapeChar c = []) := by
  rw [escapeChar]
  cases found : entities.lookup c with
  | some name =>
      obtain ⟨front, back, whole, -⟩ := List.lookup_eq_some_iff.mp found
      exact .inl ⟨name, whole ▸ List.mem_append_right front List.mem_cons_self, rfl⟩
  | none =>
      have unnamed : ∀ entity ∈ entities, c ≠ entity.1 := fun entity listed =>
        bne_iff_ne.mp (List.lookup_eq_none_iff.mp found entity listed)
      cases legal : isLegal c with
      | true => exact .inr (.inl ⟨unnamed, rfl, rfl⟩)
      | false => exact .inr (.inr ⟨rfl, rfl⟩)

/-- An entity spells no bracket, no quote and no line end. -/
theorem not_mem_of_mem_entities {entity : Char × List Char} (listed : entity ∈ entities)
    {mark : Char} (h : mark ∈ ['<', '>', '\x22', '\x27', '\r', '\n']) :
    mark ∉ '&' :: entity.2 ++ [';'] := by
  have free : ∀ entity ∈ entities, ['<', '>', '\x22', '\x27', '\r', '\n'].all
      fun mark => mark ∉ '&' :: entity.2 ++ [';'] := by decide
  exact List.all_iff_forall_prop.mp (free entity listed) mark h

/-- An escaped character has no bracket and no quote. -/
theorem not_mem_escapeChar {c mark : Char} (h : mark ∈ ['<', '>', '\x22', '\x27']) :
    mark ∉ escapeChar c := by
  rcases escapeChar_cases c with ⟨name, listed, written⟩ | ⟨unnamed, -, written⟩ | ⟨-, written⟩
  · exact written ▸ not_mem_of_mem_entities listed (List.mem_append_left ['\r', '\n'] h)
  · have named : ∀ mark ∈ ['<', '>', '\x22', '\x27'], ∃ entity ∈ entities, mark = entity.1 :=
      List.all_iff_forall_prop.mp (by decide)
    obtain ⟨entity, listed, same⟩ := named mark h
    rw [written, List.mem_singleton]
    exact fun here => unnamed entity listed (here.symm.trans same)
  · rw [written]
    exact List.not_mem_nil

theorem not_mem_escape {text : List Char} {mark : Char} (h : mark ∈ ['<', '>', '\x22', '\x27']) :
    mark ∉ escape text := by
  rw [escape, List.mem_flatMap]
  rintro ⟨c, -, mem⟩
  exact not_mem_escapeChar h mem

theorem plain_escape (text : List Char) : Plain (escape text) := by
  intro c mem
  have less : c ≠ '<' := fun same => not_mem_escape (by decide) (same ▸ mem)
  have greater : c ≠ '>' := fun same => not_mem_escape (by decide) (same ▸ mem)
  simp [isInner, less, greater]

end Stencil.Markup
