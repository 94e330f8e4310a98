import Mathlib.Data.List.Infix
import Stencil.Scan

/-! # Where spans stand

A span is told by its kind and its body, without regard to where a search begins. Spans of a
source never overlap, but for one case: an image span whose braces are doubled on both sides
is the inside of a text span, and only the text span is one of the source.

Main statement: a source is cut at exactly the spans that stand in it.
-/

namespace Stencil

/-- Whether no character of the text is a brace. -/
def BraceFree (text : Markup) : Prop :=
  ∀ c ∈ text, isBody c

instance (text : Markup) : Decidable (BraceFree text) :=
  List.decidableBAll _ text

/-- The span of a kind with a body. -/
def TagKind.enclose : TagKind → Markup → Markup
  | .text, body => '{' :: '{' :: body ++ ['}', '}']
  | .image, body => '{' :: '%' :: body ++ ['}']

/-- Whether an image span between two texts is not the inside of a text span. -/
def TagKind.StandsAlone (kind : TagKind) (before after : Markup) : Prop :=
  kind = .image → ¬ (before.getLast? = some '{' ∧ after.head? = some '}')

namespace TagKind

theorem enclose_ne_nil (kind : TagKind) (body : Markup) : kind.enclose body ≠ [] := by
  cases kind <;> simp [enclose]

theorem enclose_head (kind : TagKind) (body : Markup) :
    ∃ rest, kind.enclose body = '{' :: rest := by
  cases kind
  · exact ⟨_, rfl⟩
  · exact ⟨_, rfl⟩

theorem getLast?_enclose (kind : TagKind) (body : Markup) :
    (kind.enclose body).getLast? = some '}' := by
  cases kind with
  | text => exact List.getLast?_append_of_ne_nil ('{' :: '{' :: body) (by simp)
  | image => exact List.getLast?_append_of_ne_nil ('{' :: '%' :: body) (by simp)

end TagKind

theorem takeSpan?_enclose {kind : TagKind} {body : Markup} (free : BraceFree body)
    (after : Markup) : takeSpan? (kind.enclose body ++ after) = some (kind.enclose body, after) := by
  cases kind with
  | text =>
      simp only [TagKind.enclose, List.cons_append, List.append_assoc, takeSpan?]
      rw [List.dropWhile_append_of_pos free, List.takeWhile_append_of_pos free]
      simp [isBody]
  | image =>
      simp only [TagKind.enclose, List.cons_append, List.append_assoc, takeSpan?]
      rw [List.dropWhile_append_of_pos free, List.takeWhile_append_of_pos free]
      simp [isBody]

/-- What is found at the start of a text is a span there. -/
theorem enclose_of_takeSpan? {text span after : Markup}
    (h : takeSpan? text = some (span, after)) :
    ∃ kind body, BraceFree body ∧ span = TagKind.enclose kind body ∧ text = span ++ after := by
  have whole := (append_of_takeSpan? h).1.symm
  unfold takeSpan? at h
  split at h
  · next rest =>
    split at h
    · simp only [Option.some.injEq, Prod.mk.injEq] at h
      exact ⟨.text, rest.takeWhile isBody, List.all_eq_true.mp List.all_takeWhile, h.1.symm, whole⟩
    · cases h
  · next rest =>
    split at h
    · simp only [Option.some.injEq, Prod.mk.injEq] at h
      exact ⟨.image, rest.takeWhile isBody, List.all_eq_true.mp List.all_takeWhile, h.1.symm, whole⟩
    · cases h
  · cases h

/-- One span stands at the start of a text at most. -/
theorem enclose_inj {kind kind' : TagKind} {body body' after after' : Markup}
    (free : BraceFree body) (free' : BraceFree body')
    (same : kind.enclose body ++ after = kind'.enclose body' ++ after') :
    kind.enclose body = kind'.enclose body' ∧ after = after' := by
  have found : takeSpan? (kind.enclose body ++ after) = _ := takeSpan?_enclose free after
  rw [same, takeSpan?_enclose free'] at found
  simp only [Option.some.injEq, Prod.mk.injEq] at found
  exact ⟨found.1.symm, found.2.symm⟩

private theorem length_le_of_brace {front text before after : Markup}
    (free : ∀ c ∈ front, c ≠ '{') (same : front ++ text = before ++ '{' :: after) :
    front.length ≤ before.length := by
  rcases List.append_eq_append_iff.mp same with ⟨more, beforeIs, _⟩ | ⟨more, frontIs, rest⟩
  · simp [beforeIs]
  · cases more with
    | nil => simp [frontIs]
    | cons c more =>
        simp only [List.cons_append, List.cons.injEq] at rest
        exact absurd rest.1.symm (free c (by simp [frontIs]))

private theorem ne_of_braceFree {body : Markup} (free : BraceFree body) :
    ∀ c ∈ body, c ≠ '{' := by
  intro c mem same
  have inner := free c mem
  rw [same] at inner
  exact absurd inner (by decide)

/-- A span that ends in front of a closing brace, and begins behind the first brace of a text
    span, is an image span. -/
private theorem doubled_of_enclose {kind : TagKind} {body body' after after' : Markup}
    (free : BraceFree body) (free' : BraceFree body')
    (same : '{' :: (body' ++ ['}', '}'] ++ after') = kind.enclose body ++ after) :
    kind = .image ∧ after.head? = some '}' := by
  cases kind with
  | text =>
      simp only [TagKind.enclose, List.cons_append, List.cons.injEq, true_and] at same
      have plain : ∀ c ∈ body' ++ ['}', '}'], c ≠ '{' := by
        simpa [or_imp, forall_and] using ne_of_braceFree free'
      have long : _ ≤ ([] : Markup).length := length_le_of_brace plain same
      simp at long
  | image =>
      simp only [TagKind.enclose, List.cons_append, List.cons.injEq, true_and] at same
      have free : ∀ c ∈ '%' :: body, isBody c := List.forall_mem_cons.mpr ⟨rfl, free⟩
      rw [← List.cons_append, ← List.cons_append, List.append_assoc, List.append_assoc] at same
      have ends := congrArg (List.dropWhile isBody) same
      rw [List.dropWhile_append_of_pos free', List.dropWhile_append_of_pos free] at ends
      simp only [List.cons_append, List.nil_append, isBody, bne_self_eq_false, Bool.and_false,
        Bool.false_eq_true, not_false_eq_true, List.dropWhile_cons_of_neg, List.cons.injEq,
        true_and] at ends
      exact ⟨rfl, by rw [← ends]; rfl⟩

/-- A span that begins inside of another one is an image span, and the other one is that span
    in one more pair of braces. -/
theorem inside_of_enclose {kind kind' : TagKind} {body body' before after after' : Markup}
    (free : BraceFree body) (free' : BraceFree body') (inside : before ≠ [])
    (same : kind'.enclose body' ++ after' = before ++ kind.enclose body ++ after)
    (short : before.length < (kind'.enclose body').length) :
    kind = .image ∧ before = ['{'] ∧ after.head? = some '}' := by
  have bodyFree := ne_of_braceFree free'
  obtain ⟨tail, spanIs⟩ := kind.enclose_head body
  rw [spanIs] at same
  cases before with
  | nil => exact absurd rfl inside
  | cons c before =>
      cases kind' with
      | image =>
          have plain : ∀ c ∈ '%' :: body' ++ ['}'], c ≠ '{' := by
            simpa [or_imp, forall_and] using bodyFree
          simp only [TagKind.enclose, List.cons_append, List.append_assoc, List.cons.injEq] at same
          have long := length_le_of_brace plain (by simpa using same.2)
          simp only [TagKind.enclose, List.length_append, List.length_cons, List.length_nil]
            at short long
          omega
      | text =>
          simp only [TagKind.enclose, List.cons_append, List.append_assoc, List.cons.injEq] at same
          obtain ⟨rfl, same⟩ := same
          cases before with
          | nil =>
              obtain ⟨image, closed⟩ := doubled_of_enclose free free'
                (by rw [spanIs]; simpa using same)
              exact ⟨image, rfl, closed⟩
          | cons d before =>
              have plain : ∀ c ∈ body' ++ ['}', '}'], c ≠ '{' := by
                simpa [or_imp, forall_and] using bodyFree
              simp only [List.cons_append, List.cons.injEq] at same
              have long := length_le_of_brace plain (by simpa using same.2)
              simp only [TagKind.enclose, List.length_append, List.length_cons, List.length_nil]
                at short long
              omega

namespace TagKind

variable {kind : TagKind} {before after front : Markup}

theorem StandsAlone.of_append (alone : kind.StandsAlone (front ++ before) after) :
    kind.StandsAlone before after := by
  intro image braces
  refine alone image ⟨?_, braces.2⟩
  rw [List.getLast?_append, braces.1, Option.some_or]

theorem StandsAlone.append (alone : kind.StandsAlone before after)
    (edge : before = [] → kind.StandsAlone front after) :
    kind.StandsAlone (front ++ before) after := by
  intro image braces
  rw [List.getLast?_append] at braces
  cases last : before.getLast? with
  | none =>
      rw [last, Option.none_or] at braces
      exact edge (List.getLast?_eq_none_iff.mp last) image braces
  | some c =>
      rw [last, Option.some_or] at braces
      exact alone image ⟨last.trans braces.1, braces.2⟩

end TagKind

/-- The cut of a source has a span between two texts. -/
def CutAt (cut : List Stretch) (before span after : Markup) : Prop :=
  ∃ front back, cut = front ++ .span span :: back ∧ front.flatMap Stretch.text = before ∧
    back.flatMap Stretch.text = after

theorem cutAt_nil {before span after : Markup} : ¬ CutAt [] before span after := by
  rintro ⟨front, back, whole, -⟩
  simp at whole

theorem cutAt_cons {first : Stretch} {cut : List Stretch} {before span after : Markup} :
    CutAt (first :: cut) before span after ↔
      (first = .span span ∧ before = [] ∧ cut.flatMap Stretch.text = after) ∨
      ∃ rest, before = first.text ++ rest ∧ CutAt cut rest span after := by
  constructor
  · rintro ⟨front, back, whole, rfl, rfl⟩
    cases front with
    | nil =>
        simp only [List.nil_append, List.cons.injEq] at whole
        obtain ⟨rfl, rfl⟩ := whole
        exact .inl ⟨rfl, rfl, rfl⟩
    | cons other front =>
        simp only [List.cons_append, List.cons.injEq] at whole
        obtain ⟨rfl, rfl⟩ := whole
        exact .inr ⟨_, List.flatMap_cons, front, back, rfl, rfl, rfl⟩
  · rintro (⟨rfl, rfl, rfl⟩ | ⟨rest, rfl, front, back, rfl, rfl, rfl⟩)
    · exact ⟨[], cut, rfl, rfl, rfl⟩
    · exact ⟨first :: front, back, rfl, List.flatMap_cons, rfl⟩

/-- An image span between doubled braces is the inside of a text span. -/
private theorem takeSpan?_doubled {body after : Markup} (free : BraceFree body)
    (closed : after.head? = some '}') :
    takeSpan? ('{' :: (TagKind.image.enclose body ++ after)) ≠ none := by
  obtain ⟨after, rfl⟩ := List.head?_eq_some_iff.mp closed
  have inside : BraceFree ('%' :: body) := by
    rintro c (_ | ⟨_, mem⟩)
    · rfl
    · exact free c mem
  have found : takeSpan? (TagKind.text.enclose _ ++ after) = _ := takeSpan?_enclose inside after
  simp only [TagKind.enclose, List.cons_append, List.append_assoc, List.nil_append] at found ⊢
  simp [found]

/-- A span begins with a brace, so it lies behind any text without one. -/
private theorem append_of_braceless {front back before span after : Markup}
    (free : ∀ c ∈ front, c ≠ '{') (head : span.head? = some '{')
    (same : front ++ back = before ++ span ++ after) :
    ∃ rest, before = front ++ rest ∧ back = rest ++ span ++ after := by
  obtain ⟨tail, rfl⟩ := List.head?_eq_some_iff.mp head
  rw [List.append_assoc] at same
  rcases List.append_eq_append_iff.mp same with ⟨rest, beforeIs, backIs⟩ | ⟨more, frontIs, rest⟩
  · exact ⟨rest, beforeIs, by rw [backIs, List.append_assoc]⟩
  · cases more with
    | nil => exact ⟨[], by simp [frontIs], by simpa using rest.symm⟩
    | cons c more =>
        simp only [List.cons_append, List.cons.injEq] at rest
        exact absurd rest.1.symm (free c (by simp [frontIs]))

private theorem mem_takeWhile_ne {text : Markup} :
    ∀ c ∈ text.takeWhile (· != '{'), c ≠ '{' := by
  intro c mem
  simpa using List.all_eq_true.mp List.all_takeWhile c mem

/-- A span stands in a source between two texts, wherever a search would begin. -/
def StandsIn (source before span after : Markup) : Prop :=
  ∃ kind body, BraceFree body ∧ span = TagKind.enclose kind body ∧
    source = before ++ span ++ after ∧ kind.StandsAlone before after

theorem not_standsIn_nil {before span after : Markup} : ¬ StandsIn [] before span after := by
  rintro ⟨kind, body, -, rfl, whole, -⟩
  simp [kind.enclose_ne_nil] at whole

theorem standsAlone_start (kind : TagKind) (after : Markup) : kind.StandsAlone [] after := by
  rintro - ⟨none, -⟩
  cases none

/-- The spans of a source that begins with a span are that one and those behind it. -/
theorem standsIn_enclose_append {kind : TagKind} {body following before span after : Markup}
    (free : BraceFree body) :
    StandsIn (kind.enclose body ++ following) before span after ↔
      (span = kind.enclose body ∧ before = [] ∧ after = following) ∨
        ∃ rest, before = kind.enclose body ++ rest ∧ StandsIn following rest span after := by
  constructor
  · rintro ⟨kind', body', free', rfl, whole, alone⟩
    by_cases first : before = []
    · subst first
      obtain ⟨same, rfl⟩ := enclose_inj free free' whole
      exact .inl ⟨same.symm, rfl, rfl⟩
    · refine .inr ?_
      rcases List.append_eq_append_iff.mp (whole.trans (List.append_assoc ..)) with
        ⟨more, beforeIs, followingIs⟩ | ⟨more, spanIs, restIs⟩
      · refine ⟨more, beforeIs, kind', body', free', rfl, ?_, (beforeIs ▸ alone).of_append⟩
        rw [followingIs, List.append_assoc]
      · cases more with
        | nil =>
            refine ⟨[], by simpa using spanIs.symm, kind', body', free', rfl, ?_, ?_⟩
            · simpa using restIs.symm
            · exact standsAlone_start kind' after
        | cons d more =>
            -- the span would begin inside of the first one
            obtain ⟨image, braces, closed⟩ := inside_of_enclose free' free first whole
              (by simp [spanIs])
            exact absurd ⟨by rw [braces]; rfl, closed⟩ (alone image)
  · rintro (⟨rfl, rfl, rfl⟩ | ⟨rest, rfl, kind', body', free', rfl, rfl, alone⟩)
    · exact ⟨kind, body, free, rfl, rfl, standsAlone_start kind after⟩
    · refine ⟨kind', body', free', rfl, by simp, alone.append fun _ => ?_⟩
      rintro - ⟨last, -⟩
      rw [TagKind.getLast?_enclose] at last
      cases last

/-- The spans of a source that begins with none are those behind its next brace. -/
theorem standsIn_of_takeSpan?_none {c : Char} {rest before span after : Markup}
    (absent : takeSpan? (c :: rest) = none) :
    StandsIn (c :: rest) before span after ↔
      ∃ more, before = c :: rest.takeWhile (· != '{') ++ more ∧
        StandsIn (rest.dropWhile (· != '{')) more span after := by
  have split := List.takeWhile_append_dropWhile (p := (· != '{')) (l := rest)
  constructor
  · rintro ⟨kind, body, free, rfl, whole, alone⟩
    cases before with
    | nil =>
        rw [whole, List.nil_append, takeSpan?_enclose free] at absent
        cases absent
    | cons d before =>
        simp only [List.cons_append, List.cons.injEq] at whole
        obtain ⟨rfl, whole⟩ := whole
        obtain ⟨head, headIs⟩ := kind.enclose_head body
        obtain ⟨more, rfl, restIs⟩ := append_of_braceless mem_takeWhile_ne
          (by rw [headIs]; rfl) (split.trans whole)
        refine ⟨more, rfl, kind, body, free, rfl, restIs, ?_⟩
        exact TagKind.StandsAlone.of_append (List.cons_append ▸ alone)
  · rintro ⟨more, rfl, kind, body, free, rfl, whole, alone⟩
    refine ⟨kind, body, free, rfl, ?_, alone.append fun first => ?_⟩
    · rw [List.append_assoc, List.append_assoc, List.cons_append, ← List.append_assoc more,
        ← whole, split]
    · rintro rfl ⟨last, closed⟩
      cases run : rest.takeWhile (· != '{') with
      | nil =>
          rw [run] at last
          rw [run, List.nil_append] at split
          rw [split, first, List.nil_append] at whole
          cases last
          rw [whole] at absent
          exact takeSpan?_doubled free closed absent
      | cons e run' =>
          -- the plain text ends in a character that it was taken for not being a brace
          rw [run, List.getLast?_cons_cons] at last
          have mem : '{' ∈ rest.takeWhile (· != '{') := run ▸ List.mem_of_getLast? last
          exact mem_takeWhile_ne '{' mem rfl

/-- A source is cut at the spans that stand in it. -/
theorem cutAt_stretches {source before span after : Markup} :
    CutAt (stretches source) before span after ↔ StandsIn source before span after := by
  fun_induction stretches source generalizing before with
  | case1 => exact iff_of_false cutAt_nil not_standsIn_nil
  | case2 c rest first following found ih =>
      obtain ⟨kind, body, free, rfl, whole⟩ := enclose_of_takeSpan? found
      rw [cutAt_cons, whole, standsIn_enclose_append free, flatMap_text_stretches]
      simp only [ih, Stretch.span.injEq, Stretch.text, eq_comm]
  | case3 c rest absent ih =>
      rw [cutAt_cons, standsIn_of_takeSpan?_none absent]
      simp [ih, Stretch.text]

end Stencil
