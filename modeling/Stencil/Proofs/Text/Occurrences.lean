import Mathlib.Data.List.Infix
import Stencil.Proofs.Text.Search

/-! # Counting occurrences

A needle is counted at every place it begins at, overlaps included. A character that the needle
lacks divides a text, and the counts of both sides add up.
-/

namespace Stencil.Text

/-- How often a needle begins in a text. -/
def occurrences (needle text : List Char) : Nat :=
  text.tails.countP needle.isPrefixOf

theorem occurrences_cons (needle : List Char) (c : Char) (rest : List Char) :
    occurrences needle (c :: rest) =
      occurrences needle rest + if needle <+: c :: rest then 1 else 0 := by
  simp only [occurrences, List.tails, List.countP_cons, List.isPrefixOf_iff_prefix]

theorem occurrences_eq_zero {needle text : List Char} :
    occurrences needle text = 0 ↔ ¬ needle <:+: text := by
  induction text with
  | nil => simp [occurrences, List.isPrefixOf_iff_prefix]
  | cons c rest ih =>
      rw [occurrences_cons, List.infix_cons_iff, not_or, ← ih]
      by_cases here : needle <+: c :: rest
      · simp [here]
      · simp [here]

/-- A needle that lacks a character ends before it. -/
theorem prefix_append_cons_iff {needle : List Char} {c : Char} (apart : c ∉ needle)
    (front back : List Char) : needle <+: front ++ c :: back ↔ needle <+: front := by
  induction front generalizing needle with
  | nil =>
      cases needle with
      | nil => simp
      | cons d needle =>
          have other : d ≠ c := fun same => apart (same ▸ List.mem_cons_self)
          simp [other]
  | cons d front ih =>
      cases needle with
      | nil => simp
      | cons e needle =>
          rw [List.cons_append, List.cons_prefix_cons, List.cons_prefix_cons,
            ih fun mem => apart (List.mem_cons_of_mem e mem)]

theorem occurrences_append_cons {needle : List Char} {c : Char} (apart : c ∉ needle)
    (front back : List Char) :
    occurrences needle (front ++ c :: back) = occurrences needle front + occurrences needle back := by
  induction front with
  | nil =>
      have here := prefix_append_cons_iff apart [] back
      rw [List.nil_append] at here ⊢
      rw [occurrences_cons, Nat.add_comm]
      simp only [here, occurrences, List.tails, List.countP_cons, List.countP_nil,
        List.isPrefixOf_iff_prefix, Nat.zero_add]
  | cons d front ih =>
      have here := prefix_append_cons_iff apart (d :: front) back
      rw [List.cons_append] at here ⊢
      rw [occurrences_cons, occurrences_cons, ih]
      simp only [here]
      omega

/-- A needle with a character that the text lacks does not occur. -/
theorem occurrences_of_not_mem {needle text : List Char} {c : Char} (mem : c ∈ needle)
    (absent : c ∉ text) : occurrences needle text = 0 :=
  occurrences_eq_zero.mpr fun inside => absent (inside.subset mem)

/-- A needle does not occur where a part of it does not. -/
theorem occurrences_of_infix {part needle text : List Char} (inside : part <:+: needle)
    (absent : occurrences part text = 0) : occurrences needle text = 0 :=
  occurrences_eq_zero.mpr fun found => occurrences_eq_zero.mp absent (inside.trans found)

/-- Texts up to a mark agree when they agree on both sides of it. -/
theorem append_cons_prefix_iff {mark : Char} {front front' : List Char} (free : mark ∉ front)
    (free' : mark ∉ front') (back back' : List Char) :
    front ++ mark :: back <+: front' ++ mark :: back' ↔ front = front' ∧ back <+: back' := by
  induction front generalizing front' with
  | nil =>
      cases front' with
      | nil => simp
      | cons d front' =>
          have other : mark ≠ d := fun same => free' (same ▸ List.mem_cons_self)
          simp [other]
  | cons c front ih =>
      rw [List.mem_cons, not_or] at free
      cases front' with
      | nil => simp [Ne.symm free.1]
      | cons d front' =>
          rw [List.mem_cons, not_or] at free'
          simp only [List.cons_append, List.cons_prefix_cons, ih free.2 free'.2, List.cons.injEq,
            and_assoc]

/-- A quoted value occurs in a text with one pair of quotes exactly when it is the value there
    and its name stands before it. -/
theorem occurrences_quoted {mark : Char} {name value : List Char} (before word after : List Char)
    (name_free : mark ∉ name) (value_free : mark ∉ value) (before_free : mark ∉ before)
    (word_free : mark ∉ word) (after_free : mark ∉ after) :
    occurrences (name ++ mark :: value ++ [mark]) (before ++ mark :: word ++ mark :: after) =
      if name <:+ before ∧ value = word then 1 else 0 := by
  simp only [List.append_assoc, List.cons_append]
  have once : occurrences (name ++ mark :: (value ++ [mark])) (word ++ mark :: after) = 0 := by
    rw [occurrences_eq_zero]
    intro inside
    have few := inside.sublist.count_le mark
    simp only [List.count_append, List.count_cons_self, List.count_eq_zero_of_not_mem name_free,
      List.count_eq_zero_of_not_mem value_free, List.count_eq_zero_of_not_mem word_free,
      List.count_eq_zero_of_not_mem after_free, List.count_nil] at few
    omega
  have here (before : List Char) (before_free : mark ∉ before) :
      name ++ mark :: (value ++ [mark]) <+: before ++ mark :: (word ++ mark :: after) ↔
        name = before ∧ value = word := by
    rw [append_cons_prefix_iff name_free before_free, append_cons_prefix_iff value_free word_free]
    simp
  induction before with
  | nil =>
      have start := here [] before_free
      rw [List.nil_append] at start ⊢
      rw [occurrences_cons, once, Nat.zero_add]
      simp only [start, List.suffix_nil]
  | cons c before ih =>
      have start := here (c :: before) before_free
      rw [List.cons_append] at start ⊢
      rw [occurrences_cons, ih fun mem => before_free (List.mem_cons_of_mem c mem)]
      simp only [start, List.suffix_cons_iff]
      by_cases whole : name = c :: before
      · have longer : ¬ name <:+ before := fun suffix => by
          have := suffix.length_le
          rw [whole, List.length_cons] at this
          omega
        simp [whole, whole ▸ longer]
      · simp [whole]

end Stencil.Text
