import Stencil.Proofs.Text.Search

/-! # Pieces between separators

Splitting a text at a character and joining the pieces with it gives the text. Splitting at a
needle undoes joining with it where no piece has the character that the needle begins with.
-/

namespace Stencil.Text

section Join

variable {separator : List Char}

theorem join_eq_intercalate (separator : List Char) (pieces : List (List Char)) :
    join separator pieces = separator.intercalate pieces := by
  fun_induction join separator pieces with
  | case1 => rfl
  | case2 piece => simp [List.intercalate]
  | case3 piece rest nonempty ih => rw [ih, List.intercalate_cons_of_ne_nil nonempty]

theorem join_cons (piece : List Char) {rest : List (List Char)} (nonempty : rest ≠ []) :
    join separator (piece :: rest) = piece ++ separator ++ join separator rest := by
  rw [join_eq_intercalate, join_eq_intercalate, List.intercalate_cons_of_ne_nil nonempty]

theorem infix_join {piece : List Char} {pieces : List (List Char)} (mem : piece ∈ pieces)
    (separator : List Char) : piece <:+: join separator pieces := by
  fun_induction join separator pieces with
  | case1 => cases mem
  | case2 first =>
      rw [List.mem_singleton] at mem
      exact mem ▸ List.infix_rfl
  | case3 first rest nonempty ih =>
      rcases List.mem_cons.mp mem with rfl | later
      · exact List.infix_append_of_infix_left (List.infix_append_of_infix_left List.infix_rfl)
      · exact List.infix_append_of_infix_right (ih later)

theorem join_modifyHead_cons (c : Char) {pieces : List (List Char)} (nonempty : pieces ≠ []) :
    join separator (pieces.modifyHead (c :: ·)) = c :: join separator pieces := by
  cases pieces with
  | nil => exact absurd rfl nonempty
  | cons piece rest =>
      cases rest with
      | nil => rfl
      | cons next rest =>
          rw [List.modifyHead_cons, join_cons _ (List.cons_ne_nil _ _),
            join_cons _ (List.cons_ne_nil _ _)]
          rfl

end Join

section Mark

variable {mark : Char}

theorem splitAll_eq_splitOn (mark : Char) (text : List Char) :
    splitAll mark text = text.splitOn mark := by
  induction text with
  | nil => rfl
  | cons c rest ih =>
      rw [splitAll_cons, ih, List.splitOn_cons_eq_if_modifyHead]
      simp only [beq_iff_eq]
      cases pieces : rest.splitOn mark with
      | nil => exact absurd pieces (List.splitOn_ne_nil mark rest)
      | cons piece others => rfl

theorem splitAll_ne_nil (mark : Char) (text : List Char) : splitAll mark text ≠ [] := by
  rw [splitAll_eq_splitOn]
  exact List.splitOn_ne_nil mark text

theorem splitAll_of_not_mem {text : List Char} (absent : mark ∉ text) :
    splitAll mark text = [text] := by
  rw [splitAll_eq_splitOn, List.splitOn_eq_singleton absent]

theorem join_splitAll (mark : Char) (text : List Char) :
    join [mark] (splitAll mark text) = text := by
  rw [join_eq_intercalate, splitAll_eq_splitOn, List.intercalate_splitOn]

theorem splitAll_cons_self (rest : List Char) :
    splitAll mark (mark :: rest) = [] :: splitAll mark rest := by
  rw [splitAll_cons, if_pos rfl]

/-- Characters before the first mark belong to the first piece. -/
theorem splitAll_append {front : List Char} (absent : mark ∉ front) (back : List Char) :
    splitAll mark (front ++ back) = (splitAll mark back).modifyHead (front ++ ·) := by
  induction front with
  | nil => exact List.modifyHead_id.symm ▸ rfl
  | cons c front ih =>
      rw [List.mem_cons, not_or] at absent
      rw [List.cons_append, splitAll_eq_splitOn, List.splitOn_cons_eq_if_modifyHead,
        if_neg (by simpa using Ne.symm absent.1), ← splitAll_eq_splitOn, ih absent.2,
        List.modifyHead_modifyHead]
      rfl

/-- A mark in a text becomes a separator between its pieces. -/
theorem infix_join_splitAll (separator : List Char) {text : List Char} (mem : mark ∈ text) :
    separator <:+: join separator (splitAll mark text) := by
  induction text with
  | nil => cases mem
  | cons c rest ih =>
      by_cases here : c = mark
      · rw [here, splitAll_cons_self, join_cons [] (splitAll_ne_nil mark rest)]
        exact ⟨[], join separator (splitAll mark rest), rfl⟩
      · have alone : mark ∉ [c] := by simpa using Ne.symm here
        rw [← List.singleton_append, splitAll_append alone]
        refine List.IsInfix.trans (ih ((List.mem_cons.mp mem).resolve_left (Ne.symm here))) ?_
        exact ⟨[c], [], by simp [join_modifyHead_cons c (splitAll_ne_nil mark rest)]⟩

theorem not_mem_of_mem_splitAll {text piece : List Char} (listed : piece ∈ splitAll mark text) :
    mark ∉ piece := by
  induction text generalizing piece with
  | nil =>
      rw [List.mem_singleton.mp listed]
      exact List.not_mem_nil
  | cons c rest ih =>
      by_cases here : c = mark
      · rw [here, splitAll_cons_self] at listed
        rcases List.mem_cons.mp listed with rfl | later
        · exact List.not_mem_nil
        · exact ih later
      · have alone : mark ∉ [c] := by simpa using Ne.symm here
        rw [← List.singleton_append, splitAll_append alone] at listed
        cases pieces : splitAll mark rest with
        | nil => exact absurd pieces (splitAll_ne_nil mark rest)
        | cons first others =>
            rw [pieces] at ih listed
            rcases List.mem_cons.mp listed with rfl | later
            · exact fun mem => (List.mem_append.mp mem).elim alone (ih List.mem_cons_self)
            · exact ih (List.mem_cons_of_mem first later)

/-- A translation that keeps the mark and adds none to other characters may be made before or
    after the text is split. -/
theorem splitAll_flatMap {f : Char → List Char} (kept : f mark = [mark])
    (apart : ∀ c, c ≠ mark → mark ∉ f c) (text : List Char) :
    splitAll mark (text.flatMap f) = (splitAll mark text).map (List.flatMap f) := by
  induction text with
  | nil => rfl
  | cons c rest ih =>
      rw [List.flatMap_cons]
      by_cases here : c = mark
      · rw [here, kept, List.singleton_append, splitAll_cons_self, splitAll_cons_self, ih]
        rfl
      · have alone : mark ∉ [c] := by simpa using Ne.symm here
        rw [splitAll_append (apart c here), ih, ← List.singleton_append, splitAll_append alone]
        cases splitAll mark rest with
        | nil => rfl
        | cons first others => simp

end Mark

/-- The pieces between the occurrences of `needle` that are found from left to right, each
    behind the one before. -/
def splitEach (needle text : List Char) : List (List Char) :=
  if _empty : needle = [] then [text]
  else
    match _cut : cutFirst? needle text with
    | none => [text]
    | some (before, after) => before :: splitEach needle after
termination_by text.length
decreasing_by
  have sizes := congrArg List.length (append_of_cutFirst? _cut)
  have positive := List.length_pos_iff.mpr _empty
  simp only [List.length_append] at sizes
  omega

/-- Each occurrence of `needle` that is found from left to right becomes `replacement`. -/
def replaceEach (needle replacement text : List Char) : List Char :=
  join replacement (splitEach needle text)

section Needle

variable {needle : List Char}

theorem splitEach_of_cutFirst? {text before after : List Char} (nonempty : needle ≠ [])
    (cut : cutFirst? needle text = some (before, after)) :
    splitEach needle text = before :: splitEach needle after := by
  rw [splitEach, dif_neg nonempty]
  split
  · next absent =>
    rw [absent] at cut
    cases cut
  · next found =>
    rw [found] at cut
    cases cut
    rfl

theorem splitEach_of_absent {text : List Char} (absent : ¬ needle <:+: text) :
    splitEach needle text = [text] := by
  rw [splitEach]
  split
  · rfl
  · split
    · rfl
    · next found =>
      exact absurd ⟨_, _, append_of_cutFirst? found⟩ absent

theorem splitEach_ne_nil (needle text : List Char) : splitEach needle text ≠ [] := by
  rw [splitEach]
  split
  · exact List.cons_ne_nil _ _
  · split
    · exact List.cons_ne_nil _ _
    · exact List.cons_ne_nil _ _

theorem splitEach_append (nonempty : needle ≠ []) (rest : List Char) :
    splitEach needle (needle ++ rest) = [] :: splitEach needle rest := by
  refine splitEach_of_cutFirst? nonempty ((cutFirst?_eq_some_iff nonempty).mpr ⟨rfl, ?_⟩)
  intro inside
  have shorter := inside.length_le
  have positive := List.length_pos_iff.mpr nonempty
  rw [List.nil_append, List.length_dropLast] at shorter
  omega

/-- A character that begins no needle belongs to the first piece. -/
theorem splitEach_cons {c : Char} {rest : List Char} (absent : ¬ needle <+: c :: rest) :
    splitEach needle (c :: rest) = (splitEach needle rest).modifyHead (c :: ·) := by
  have nonempty : needle ≠ [] := by
    rintro rfl
    exact absent List.nil_prefix
  cases cut : cutFirst? needle rest with
  | none =>
      have free : ¬ needle <:+: c :: rest := by
        rw [List.infix_cons_iff, not_or]
        exact ⟨absent, not_infix_of_cutFirst? cut⟩
      rw [splitEach_of_absent free, splitEach_of_absent (not_infix_of_cutFirst? cut)]
      rfl
  | some pair =>
      have searched : cutFirst? needle (c :: rest) = some (c :: pair.1, pair.2) := by
        rw [cutFirst?, dropLead?_eq_none.mpr absent, cut]
        rfl
      rw [splitEach_of_cutFirst? nonempty cut, splitEach_of_cutFirst? nonempty searched]
      rfl

/-- A needle is no part of a text that lacks the character it begins with, nor of that text and
    of less than the needle behind it. -/
private theorem not_infix_append_dropLast {mark : Char} {tail piece : List Char}
    (absent : mark ∉ piece) : ¬ mark :: tail <:+: piece ++ (mark :: tail).dropLast := by
  induction piece with
  | nil =>
      intro inside
      have shorter := inside.length_le
      rw [List.nil_append, List.length_dropLast, List.length_cons] at shorter
      omega
  | cons c piece ih =>
      rw [List.mem_cons, not_or] at absent
      rw [List.cons_append, List.infix_cons_iff, not_or]
      exact ⟨fun here => absent.1 (List.cons_prefix_cons.mp here).1, ih absent.2⟩

/-- Pieces without the character that the needle begins with are told apart by it. -/
theorem splitEach_join {mark : Char} {tail : List Char} {pieces : List (List Char)}
    (nonempty : pieces ≠ []) (absent : ∀ piece ∈ pieces, mark ∉ piece) :
    splitEach (mark :: tail) (join (mark :: tail) pieces) = pieces := by
  induction pieces with
  | nil => exact absurd rfl nonempty
  | cons piece rest ih =>
      rw [List.forall_mem_cons] at absent
      by_cases last : rest = []
      · subst last
        exact splitEach_of_absent fun inside => absent.1 (inside.subset List.mem_cons_self)
      · rw [join_cons piece last]
        have cut : cutFirst? (mark :: tail) (piece ++ mark :: tail ++ join (mark :: tail) rest) =
            some (piece, join (mark :: tail) rest) :=
          (cutFirst?_eq_some_iff (List.cons_ne_nil _ _)).mpr
            ⟨rfl, not_infix_append_dropLast absent.1⟩
        rw [splitEach_of_cutFirst? (List.cons_ne_nil _ _) cut, ih last absent.2]

theorem replaceEach_nil (nonempty : needle ≠ []) (replacement : List Char) :
    replaceEach needle replacement [] = [] := by
  rw [replaceEach, splitEach_of_absent fun inside => nonempty (List.infix_nil.mp inside)]
  rfl

theorem replaceEach_append (nonempty : needle ≠ []) (replacement rest : List Char) :
    replaceEach needle replacement (needle ++ rest) =
      replacement ++ replaceEach needle replacement rest := by
  rw [replaceEach, splitEach_append nonempty, join_cons [] (splitEach_ne_nil needle rest)]
  rfl

theorem replaceEach_cons {c : Char} {rest : List Char} (absent : ¬ needle <+: c :: rest)
    (replacement : List Char) :
    replaceEach needle replacement (c :: rest) = c :: replaceEach needle replacement rest := by
  rw [replaceEach, splitEach_cons absent, join_modifyHead_cons c (splitEach_ne_nil needle rest)]
  rfl

end Needle

end Stencil.Text
