import Mathlib.Data.List.Infix
import Mathlib.Data.List.TakeWhile
import Stencil.Text.Basic

/-! # What searches find

A search tells by its result where its text is cut. The statements here turn each result into
an equation between a text and its parts, so that no later proof follows the search itself.

Byte counts add up, and a part of a text is told by the number of its bytes. Trimming takes blanks
away and nothing else.
-/

namespace Stencil.Text

private theorem byteSize_from (text : List Char) (size : Nat) :
    text.foldl (fun size c => size + c.utf8Size) size = size + byteSize text := by
  induction text generalizing size with
  | nil => rfl
  | cons c rest ih =>
      rw [byteSize, List.foldl_cons, List.foldl_cons, ih, ih (0 + c.utf8Size)]
      omega

@[simp] theorem byteSize_nil : byteSize [] = 0 := rfl

@[simp] theorem byteSize_cons (c : Char) (rest : List Char) :
    byteSize (c :: rest) = c.utf8Size + byteSize rest := by
  rw [byteSize, List.foldl_cons, byteSize_from]
  omega

@[simp] theorem byteSize_append (front back : List Char) :
    byteSize (front ++ back) = byteSize front + byteSize back := by
  induction front with
  | nil => simp
  | cons c front ih =>
      simp only [List.cons_append, byteSize_cons, ih]
      omega

/-- A text is cut at a byte in one way only. -/
theorem append_inj_of_byteSize {front back front' back' : List Char}
    (whole : front ++ back = front' ++ back') (size : byteSize front = byteSize front') :
    front = front' ∧ back = back' := by
  induction front generalizing front' with
  | nil =>
      cases front' with
      | nil => exact ⟨rfl, whole⟩
      | cons c front' =>
          have := c.utf8Size_pos
          simp only [byteSize_nil, byteSize_cons] at size
          omega
  | cons c front ih =>
      cases front' with
      | nil =>
          have := c.utf8Size_pos
          simp only [byteSize_nil, byteSize_cons] at size
          omega
      | cons d front' =>
          simp only [List.cons_append, List.cons.injEq] at whole
          obtain ⟨rfl, whole⟩ := whole
          simp only [byteSize_cons, Nat.add_left_cancel_iff] at size
          obtain ⟨rfl, rfl⟩ := ih whole size
          exact ⟨rfl, rfl⟩

/-- A text that is cut at two bytes. -/
theorem exists_of_byteSize_le {front back front' back' : List Char}
    (whole : front ++ back = front' ++ back') (size : byteSize front ≤ byteSize front') :
    ∃ rest, front' = front ++ rest ∧ back = rest ++ back' := by
  rcases List.append_eq_append_iff.mp whole with ⟨rest, longer, behind⟩ | ⟨rest, rfl, -⟩
  · exact ⟨rest, longer, behind⟩
  · have same : byteSize (front' ++ rest) = byteSize front' := by
      rw [byteSize_append] at size ⊢
      omega
    obtain ⟨equal, rfl⟩ := append_inj_of_byteSize whole same
    exact ⟨[], by rw [List.append_nil, equal], rfl⟩

@[simp] theorem dropLead?_eq_some {lead text rest : List Char} :
    dropLead? lead text = some rest ↔ lead ++ rest = text :=
  List.isPrefixOf?_eq_some_iff_append_eq

@[simp] theorem dropTail?_eq_some {tail text rest : List Char} :
    dropTail? tail text = some rest ↔ rest ++ tail = text :=
  List.isSuffixOf?_eq_some_iff_append_eq

theorem dropLead?_eq_none {lead text : List Char} :
    dropLead? lead text = none ↔ ¬ lead <+: text := by
  constructor
  · rintro absent ⟨rest, whole⟩
    rw [dropLead?_eq_some.mpr whole] at absent
    cases absent
  · intro absent
    cases found : dropLead? lead text with
    | none => rfl
    | some rest => exact absurd ⟨rest, dropLead?_eq_some.mp found⟩ absent

theorem dropTail_append (tail text : List Char) : dropTail tail (text ++ tail) = text := by
  rw [dropTail, dropTail?_eq_some.mpr rfl, Option.getD_some]

/-- The first mark ends the part of the text that has none. -/
theorem splitFirst?_eq (mark : Char) (text : List Char) :
    splitFirst? mark text =
      match text.dropWhile (· ≠ mark) with
      | [] => none
      | _ :: after => some (text.takeWhile (· ≠ mark), after) := by
  induction text with
  | nil => rfl
  | cons c rest ih =>
      by_cases here : c = mark
      · simp [splitFirst?, here]
      · rw [splitFirst?, if_neg here, ih]
        simp only [ne_eq, here, not_false_eq_true, decide_true, List.dropWhile_cons_of_pos,
          List.takeWhile_cons_of_pos]
        cases rest.dropWhile (fun c => decide (¬ c = mark)) <;> rfl

theorem splitFirst?_append {mark : Char} {before : List Char} (absent : mark ∉ before)
    (after : List Char) : splitFirst? mark (before ++ mark :: after) = some (before, after) := by
  induction before with
  | nil => simp [splitFirst?]
  | cons c before ih =>
      rw [List.mem_cons, not_or] at absent
      rw [List.cons_append, splitFirst?, if_neg (Ne.symm absent.1), ih absent.2]
      rfl

theorem splitFirst?_eq_some {mark : Char} {text before after : List Char} :
    splitFirst? mark text = some (before, after) ↔
      text = before ++ mark :: after ∧ mark ∉ before := by
  constructor
  · intro h
    induction text generalizing before with
    | nil => cases h
    | cons c rest ih =>
        rw [splitFirst?] at h
        split at h
        · next here =>
          cases h
          exact ⟨by rw [here]; rfl, List.not_mem_nil⟩
        · next other =>
          obtain ⟨⟨front, back⟩, found, same⟩ := Option.map_eq_some_iff.mp h
          cases same
          obtain ⟨rfl, absent⟩ := ih found
          exact ⟨rfl, fun mem => (List.mem_cons.mp mem).elim (Ne.symm other) absent⟩
  · rintro ⟨rfl, absent⟩
    exact splitFirst?_append absent after

theorem splitFirst?_eq_none {mark : Char} {text : List Char} :
    splitFirst? mark text = none ↔ mark ∉ text := by
  constructor
  · intro absent mem
    obtain ⟨before, after, rfl, free⟩ := List.eq_append_cons_of_mem mem
    rw [splitFirst?_append free] at absent
    cases absent
  · intro absent
    cases found : splitFirst? mark text with
    | none => rfl
    | some parts =>
        obtain ⟨rfl, -⟩ := splitFirst?_eq_some.mp found
        exact absurd (List.mem_append_right parts.1 List.mem_cons_self) absent

theorem append_of_cutFirst? {needle text before after : List Char}
    (h : cutFirst? needle text = some (before, after)) : before ++ needle ++ after = text := by
  induction text generalizing before with
  | nil =>
      obtain ⟨rest, found, same⟩ := Option.map_eq_some_iff.mp h
      simp only [Prod.mk.injEq] at same
      obtain ⟨rfl, rfl⟩ := same
      simpa using found
  | cons c rest ih =>
      rw [cutFirst?] at h
      split at h
      · next found =>
        simp only [Option.some.injEq, Prod.mk.injEq] at h
        obtain ⟨rfl, rfl⟩ := h
        simpa using found
      · obtain ⟨⟨front, back⟩, found, same⟩ := Option.map_eq_some_iff.mp h
        simp only [Prod.mk.injEq] at same
        obtain ⟨rfl, rfl⟩ := same
        rw [← ih found]
        rfl

theorem not_infix_of_cutFirst? {needle text : List Char} (h : cutFirst? needle text = none) :
    ¬ needle <:+: text := by
  induction text with
  | nil =>
      simp only [cutFirst?, Option.map_eq_none_iff, dropLead?_eq_none] at h
      simpa using h
  | cons c rest ih =>
      rw [cutFirst?] at h
      split at h
      · cases h
      · next absent =>
        simp only [Option.map_eq_none_iff] at h
        rw [List.infix_cons_iff]
        exact not_or.mpr ⟨dropLead?_eq_none.mp absent, ih h⟩

/-- A needle occurs exactly where the text goes on with all of it. -/
theorem occurs_iff {needle text : List Char} : occurs needle text = true ↔ needle <:+: text := by
  rw [occurs]
  cases found : cutFirst? needle text with
  | none => simp [not_infix_of_cutFirst? found]
  | some cut => exact iff_of_true rfl ⟨cut.1, cut.2, append_of_cutFirst? found⟩

theorem append_of_cutLast? {needle text before after : List Char}
    (h : cutLast? needle text = some (before, after)) : before ++ needle ++ after = text := by
  obtain ⟨⟨back, front⟩, found, same⟩ := Option.map_eq_some_iff.mp h
  simp only [Prod.mk.injEq] at same
  obtain ⟨rfl, rfl⟩ := same
  have turned := congrArg List.reverse (append_of_cutFirst? found)
  simpa using turned

theorem not_infix_of_cutLast? {needle text : List Char} (h : cutLast? needle text = none) :
    ¬ needle <:+: text := by
  simp only [cutLast?, Option.map_eq_none_iff] at h
  have absent := not_infix_of_cutFirst? h
  rwa [List.reverse_infix] at absent

/-- A needle that ends in a text without its last character begins at its only place. -/
private theorem length_le_of_first {needle before after before' after' : List Char}
    (nonempty : needle ≠ []) (whole : before ++ needle ++ after = before' ++ needle ++ after')
    (first : ¬ needle <:+: before ++ needle.dropLast) : before.length ≤ before'.length := by
  refine Nat.le_of_not_lt fun shorter => first ?_
  have positive := List.length_pos_iff.mpr nonempty
  -- the earlier needle ends where the other one has not ended yet
  have inside : before' ++ needle <+: before ++ needle.dropLast := by
    have ahead : before' ++ needle <+: before ++ needle ++ after := by
      rw [whole]
      exact List.prefix_append _ _
    have cut : before ++ needle.dropLast <+: before ++ needle ++ after := by
      rw [List.append_assoc, List.prefix_append_right_inj]
      exact (List.dropLast_prefix needle).trans (List.prefix_append _ _)
    refine List.prefix_of_prefix_length_le ahead cut ?_
    simp only [List.length_append, List.length_dropLast]
    omega
  exact (List.infix_append' before' needle []).trans (by rw [List.append_nil]; exact inside.isInfix)

/-- A text is cut at the place where a needle first occurs. -/
theorem cutFirst?_eq_some_iff {needle text before after : List Char} (nonempty : needle ≠ []) :
    cutFirst? needle text = some (before, after) ↔
      text = before ++ needle ++ after ∧ ¬ needle <:+: before ++ needle.dropLast := by
  have found {text before after : List Char} (h : cutFirst? needle text = some (before, after)) :
      ¬ needle <:+: before ++ needle.dropLast := by
    induction text generalizing before with
    | nil =>
        obtain ⟨rest, lead, -⟩ := Option.map_eq_some_iff.mp h
        exact absurd (List.append_eq_nil_iff.mp (dropLead?_eq_some.mp lead)).1 nonempty
    | cons c rest ih =>
        have whole := append_of_cutFirst? h
        rw [cutFirst?] at h
        split at h
        · cases h
          intro inside
          have shorter := inside.length_le
          have positive := List.length_pos_iff.mpr nonempty
          rw [List.nil_append, List.length_dropLast] at shorter
          omega
        · next absent =>
          obtain ⟨⟨front, back⟩, later, same⟩ := Option.map_eq_some_iff.mp h
          cases same
          rw [List.cons_append, List.infix_cons_iff, not_or]
          refine ⟨fun here => dropLead?_eq_none.mp absent (here.trans ?_), ih later⟩
          rw [← whole, List.append_assoc, List.cons_append, List.cons_prefix_cons,
            List.prefix_append_right_inj]
          exact ⟨rfl, (List.dropLast_prefix needle).trans (List.prefix_append _ _)⟩
  constructor
  · exact fun h => ⟨(append_of_cutFirst? h).symm, found h⟩
  · rintro ⟨whole, first⟩
    cases cut : cutFirst? needle text with
    | none => exact absurd ⟨before, after, whole.symm⟩ (not_infix_of_cutFirst? cut)
    | some pair =>
        have same := (append_of_cutFirst? cut).trans whole
        have length := Nat.le_antisymm (length_le_of_first nonempty same (found cut))
          (length_le_of_first nonempty same.symm first)
        obtain ⟨front, back⟩ := List.append_inj same (by simp [length])
        obtain ⟨front, -⟩ := List.append_inj front length
        exact congrArg some (Prod.ext front back)

/-- A text is cut at the place where a needle last occurs. -/
theorem cutLast?_eq_some_iff {needle text before after : List Char} (nonempty : needle ≠ []) :
    cutLast? needle text = some (before, after) ↔
      text = before ++ needle ++ after ∧ ¬ needle <:+: needle.tail ++ after := by
  have turned : cutLast? needle text = some (before, after) ↔
      cutFirst? needle.reverse text.reverse = some (after.reverse, before.reverse) := by
    rw [cutLast?]
    cases cutFirst? needle.reverse text.reverse with
    | none => simp
    | some pair =>
        simp [Prod.ext_iff, List.reverse_eq_iff, and_comm]
  have last : after.reverse ++ needle.reverse.dropLast = (needle.tail ++ after).reverse := by
    simp
  rw [turned, cutFirst?_eq_some_iff (by simpa using nonempty), last, List.reverse_infix,
    List.reverse_eq_iff]
  simp

theorem splitAll_cons (mark c : Char) (rest : List Char) :
    splitAll mark (c :: rest) =
      if c = mark then [] :: splitAll mark rest
      else match splitAll mark rest with
        | [] => [[c]]
        | first :: others => (c :: first) :: others := rfl

theorem mem_of_mem_splitAll {mark : Char} {text piece : List Char} {c : Char}
    (listed : piece ∈ splitAll mark text) (mem : c ∈ piece) : c ∈ text := by
  induction text generalizing piece with
  | nil =>
      rw [List.mem_singleton.mp listed] at mem
      cases mem
  | cons d rest ih =>
      rw [splitAll_cons] at listed
      split at listed
      · rcases List.mem_cons.mp listed with rfl | later
        · cases mem
        · exact List.mem_cons_of_mem d (ih later mem)
      · split at listed
        · rw [List.mem_singleton.mp listed] at mem
          rw [List.mem_singleton.mp mem]
          exact List.mem_cons_self
        · next first others cut =>
          rcases List.mem_cons.mp listed with rfl | later
          · rcases List.mem_cons.mp mem with rfl | inFirst
            · exact List.mem_cons_self
            · exact List.mem_cons_of_mem d (ih (cut ▸ List.mem_cons_self) inFirst)
          · exact List.mem_cons_of_mem d (ih (cut ▸ List.mem_cons_of_mem first later) mem)

/-! ## Trimming

Blanks that are added at an end of a text, or before a character that ends a search, leave no trace
in what is trimmed.
-/

/-- Whether a text consists of blanks only. -/
def Blank (text : List Char) : Prop :=
  ∀ c ∈ text, isBlank c

theorem trimStart_append_left {blanks : List Char} (h : Blank blanks) (text : List Char) :
    trimStart (blanks ++ text) = trimStart text :=
  List.dropWhile_append_of_pos h

theorem trimEnd_append_right {blanks : List Char} (h : Blank blanks) (text : List Char) :
    trimEnd (text ++ blanks) = trimEnd text := by
  rw [trimEnd, trimEnd, List.reverse_append,
    List.dropWhile_append_of_pos fun c mem => h c (List.mem_reverse.mp mem)]

theorem trimStart_eq_nil {text : List Char} : trimStart text = [] ↔ Blank text :=
  List.dropWhile_eq_nil_iff

/-- A text is the blanks before it and what is left when they are taken away. -/
theorem exists_blank_append_trimStart (text : List Char) :
    ∃ blanks, Blank blanks ∧ text = blanks ++ trimStart text :=
  ⟨text.takeWhile isBlank, List.all_eq_true.mp List.all_takeWhile,
    List.takeWhile_append_dropWhile.symm⟩

theorem exists_trimEnd_append_blank (text : List Char) :
    ∃ blanks, Blank blanks ∧ text = trimEnd text ++ blanks := by
  obtain ⟨blanks, blank, whole⟩ := exists_blank_append_trimStart text.reverse
  refine ⟨blanks.reverse, fun c mem => blank c (List.mem_reverse.mp mem), ?_⟩
  have turned := congrArg List.reverse whole
  rwa [List.reverse_reverse, List.reverse_append] at turned

theorem trim_append_left {blanks : List Char} (h : Blank blanks) (text : List Char) :
    trim (blanks ++ text) = trim text := by
  rw [trim, trim, trimStart_append_left h]

theorem trim_append_right {blanks : List Char} (h : Blank blanks) (text : List Char) :
    trim (text ++ blanks) = trim text := by
  obtain ⟨front, blank, whole⟩ := exists_blank_append_trimStart text
  by_cases empty : trimStart text = []
  · have all : Blank (text ++ blanks) := by
      intro c mem
      exact (List.mem_append.mp mem).elim (trimStart_eq_nil.mp empty c) (h c)
    rw [trim, trim, trimStart_eq_nil.mpr all, empty]
  · have kept : trimStart (text ++ blanks) = trimStart text ++ blanks := by
      rw [trimStart, List.dropWhile_append]
      simp only [trimStart] at empty
      simp [empty, trimStart]
    rw [trim, trim, kept, trimEnd_append_right h]

/-- A trimmed text stands between blanks. -/
theorem exists_blank_append_trim (text : List Char) :
    ∃ front back, Blank front ∧ Blank back ∧ text = front ++ (trim text ++ back) := by
  obtain ⟨front, front', whole⟩ := exists_blank_append_trimStart text
  obtain ⟨back, back', inner⟩ := exists_trimEnd_append_blank (trimStart text)
  exact ⟨front, back, front', back', by rw [trim, ← inner, ← whole]⟩

theorem trim_eq_nil {text : List Char} : trim text = [] ↔ Blank text := by
  constructor
  · intro empty
    obtain ⟨front, back, blank, blank', whole⟩ := exists_blank_append_trim text
    rw [empty, List.nil_append] at whole
    intro c mem
    rw [whole, List.mem_append] at mem
    rcases mem with inFront | inBack
    · exact blank c inFront
    · exact blank' c inBack
  · intro blank
    rw [trim, trimStart_eq_nil.mpr blank]
    rfl

theorem trim_trim (text : List Char) : trim (trim text) = trim text := by
  obtain ⟨front, back, front', back', whole⟩ := exists_blank_append_trim text
  conv_rhs => rw [whole, trim_append_left front', trim_append_right back']

theorem trim_subset (text : List Char) : trim text ⊆ text := by
  obtain ⟨front, back, -, -, whole⟩ := exists_blank_append_trim text
  intro c mem
  rw [whole]
  exact List.mem_append_right front (List.mem_append_left back mem)

/-- A text that begins and ends with other characters than blanks is trimmed already. -/
theorem trim_of_ends {text : List Char} {first last : Char} (head : text.head? = some first)
    (tail : text.getLast? = some last) (first' : isBlank first = false)
    (last' : isBlank last = false) : trim text = text := by
  have start : trimStart text = text := by
    cases text with
    | nil => cases head
    | cons c rest =>
        cases head
        exact List.dropWhile_cons_of_neg (by simp [first'])
  rw [trim, start]
  cases turned : text.reverse with
  | nil => rw [List.reverse_eq_nil_iff.mp turned] at head; cases head
  | cons c rest =>
      have same : c = last := by
        rw [← List.head?_reverse, turned] at tail
        exact Option.some.inj tail
      rw [trimEnd, turned, List.dropWhile_cons_of_neg (by simp [same, last']), ← turned,
        List.reverse_reverse]

/-- Trimming a text first changes nothing in the trimmed part of it before a mark. -/
theorem trim_takeWhile_trim {p : Char → Bool} (h : ∀ c, isBlank c → p c) (text : List Char) :
    trim ((trim text).takeWhile p) = trim (text.takeWhile p) := by
  obtain ⟨front, back, front', back', split⟩ := exists_blank_append_trim text
  conv_rhs => rw [split]
  rw [List.takeWhile_append_of_pos fun c mem => h c (front' c mem), trim_append_left front',
    List.takeWhile_append]
  split
  · next all =>
    rw [List.takeWhile_eq_self_iff.mpr fun c mem => h c (back' c mem), trim_append_right back',
      (List.takeWhile_prefix p).eq_of_length all]
  · rfl

end Stencil.Text
