import Stencil.Proofs.Markup.Attribute
import Stencil.Proofs.Markup.Groups
import Stencil.Proofs.Text.Occurrences

/-! # Drawings as they are read

The numbers of drawings are searched for from the left. An element that spells its number as the search
expects it is found wherever it stands: a search that began before the element either ends before it or
finds the same number in it.

What is written for a picture is read as a drawing of it: its elements give it the number, the name of
the file, the relationship and the size.

Main statements: `Numbered.mem_idTexts`, `le_greatestIdIn`, `numbers_inline`, `shows_inline`.
-/

namespace Stencil

namespace Drawing

/-- Whether a search goes from the name of an element over a text to the attribute behind it: no word
    goes on into the text or out of it, and no number stands in the text behind another beginning of
    such an attribute, unless this is the end of a longer word. -/
structure LeadsToNumber (front : Markup) : Prop where
  begins : front.head?.any Text.isWordChar = false
  ends : Text.isWordChar (front.getLastD 'r') = false
  first : ∀ lead digits trail, front = lead ++ attributeStart ++ digits ++ '\x22' :: trail →
    digits ≠ [] → (∀ c ∈ digits, Text.isPatternDigit c = true) →
      Text.isWordChar (lead.getLastD 'r') = true

/-- Whether an element spells the number of a drawing as it is searched for. -/
def Numbered (element : Markup) (digits : List Char) : Prop :=
  ∃ front behind, LeadsToNumber front ∧
    element = elementStart ++ front ++ attributeStart ++ digits ++ '\x22' :: behind

section Search

variable {previous c : Char} {front rest after text : Markup} {digits : List Char} {id : Nat}

theorem isPatternDigit_of_isDigit (h : c.isDigit = true) : Text.isPatternDigit c = true := by
  simp only [Char.isDigit, Bool.and_eq_true, decide_eq_true_eq] at h
  have checked : ∀ n < 10, Text.isPatternDigit (Char.ofNat (48 + n)) = true := by decide +kernel
  have low : 48 ≤ c.toNat := h.1
  have high : c.toNat ≤ 57 := h.2
  have digit := checked (c.toNat - 48) (by omega)
  rwa [Nat.add_sub_cancel' low, Char.ofNat_toNat] at digit

theorem takeQuotedDigits?_of_decimal? (read : Text.decimal? digits = some id) (rest : Markup) :
    takeQuotedDigits? (digits ++ '\x22' :: rest) = some (digits, rest) := by
  cases digits with
  | nil => cases read
  | cons first digits =>
      simp only [Text.decimal?] at read
      split at read
      · next all =>
        have numeric : ∀ c ∈ first :: digits, Text.isPatternDigit c = true :=
          fun c mem => isPatternDigit_of_isDigit (List.all_eq_true.mp all c mem)
        have quote : ¬ Text.isPatternDigit '\x22' = true := by decide
        rw [takeQuotedDigits?, List.dropWhile_append_of_pos numeric,
          List.takeWhile_append_of_pos numeric, List.dropWhile_cons_of_neg quote,
          List.takeWhile_cons_of_neg quote, List.append_nil]
        rfl
      · cases read

theorem of_takeQuotedDigits? (h : takeQuotedDigits? text = some (digits, after)) :
    digits ++ '\x22' :: after = text ∧ digits ≠ [] ∧
      ∀ c ∈ digits, Text.isPatternDigit c = true := by
  have whole := List.takeWhile_append_dropWhile (p := Text.isPatternDigit) (l := text)
  have numeric : ∀ c ∈ text.takeWhile Text.isPatternDigit, Text.isPatternDigit c = true :=
    fun _ => List.mem_takeWhile_imp
  rw [takeQuotedDigits?] at h
  split at h
  · next behind quoted =>
    rw [quoted] at whole
    split at h
    · cases h
    · next nonempty =>
      cases h
      exact ⟨whole, nonempty, numeric⟩
  · cases h

/-- A number in quotes that begins before a mark ends before it. -/
private theorem ends_before_mark {mark : Char} {lead : Markup} (free : mark ∉ lead)
    (other : Text.isPatternDigit mark = false) (unquoted : mark ≠ '\x22')
    (numeric : ∀ c ∈ digits, Text.isPatternDigit c = true)
    (whole : lead ++ digits ++ '\x22' :: after = front ++ mark :: rest) :
    ∃ between, front = lead ++ digits ++ '\x22' :: between ∧ after = between ++ mark :: rest := by
  have absent : mark ∉ lead ++ digits ++ ['\x22'] := by
    have digit : mark ∉ digits := fun mem => Bool.false_ne_true (other.symm.trans (numeric mark mem))
    simp [free, digit, unquoted]
  have within : lead ++ digits ++ ['\x22'] <+: front ++ mark :: rest :=
    ⟨after, by rw [List.append_assoc]; exact whole⟩
  obtain ⟨between, before⟩ := (Text.prefix_append_cons_iff absent _ _).mp within
  have same : lead ++ digits ++ ['\x22'] ++ after =
      lead ++ digits ++ ['\x22'] ++ (between ++ mark :: rest) := by
    rw [← List.append_assoc, before, List.append_assoc]
    exact whole
  exact ⟨between, by rw [← before, List.append_assoc]; rfl, List.append_cancel_left same⟩

theorem takeAttribute?_skip
    (absent : Text.isWordChar previous = true ∨
      (Text.dropLead? attributeStart (c :: rest)).bind takeQuotedDigits? = none) (inside : c ≠ '>') :
    takeAttribute? previous (c :: rest) = takeAttribute? c rest := by
  rw [takeAttribute?]
  rcases absent with word | absent
  · simp only [if_pos word, if_neg inside]
  · simp only [absent, ite_self, if_neg inside]

theorem takeAttribute?_skip_of_ne (other : c ≠ 'i') (inside : c ≠ '>') (rest : Markup) :
    takeAttribute? previous (c :: rest) = takeAttribute? c rest := by
  have apart : ¬ attributeStart <+: c :: rest := by
    rintro ⟨trail, spelled⟩
    exact other (List.cons.inj spelled).1.symm
  exact takeAttribute?_skip (.inr (by rw [Text.dropLead?_eq_none.mpr apart]; rfl)) inside

theorem takeAttribute?_here (begins : Text.isWordChar previous = false) {found : List Char × Markup}
    (quoted : takeQuotedDigits? rest = some found) :
    takeAttribute? previous (attributeStart ++ rest) = some found := by
  have lead : Text.dropLead? attributeStart (attributeStart ++ rest) = some rest :=
    Text.dropLead?_eq_some.mpr rfl
  have spelled : attributeStart ++ rest = 'i' :: ("d=\"".toList ++ rest) := rfl
  rw [spelled] at lead ⊢
  rw [takeAttribute?]
  simp only [begins, Bool.false_eq_true, if_false, lead, Option.bind_some, quoted]

theorem takeAttribute?_of_leads (inside : '>' ∉ front)
    (ends : Text.isWordChar (front.getLastD previous) = false)
    (first : ∀ lead digits trail, front = lead ++ attributeStart ++ digits ++ '\x22' :: trail →
      digits ≠ [] → (∀ c ∈ digits, Text.isPatternDigit c = true) →
        Text.isWordChar (lead.getLastD previous) = true)
    {found : List Char × Markup} (quoted : takeQuotedDigits? rest = some found) :
    takeAttribute? previous (front ++ (attributeStart ++ rest)) = some found := by
  induction front generalizing previous with
  | nil => exact takeAttribute?_here ends quoted
  | cons c front ih =>
      have absent : Text.isWordChar previous = true ∨ (Text.dropLead? attributeStart
          (c :: (front ++ (attributeStart ++ rest)))).bind takeQuotedDigits? = none := by
        refine or_iff_not_imp_right.mpr fun here => ?_
        obtain ⟨⟨digits, after⟩, here⟩ := Option.ne_none_iff_exists'.mp here
        obtain ⟨value, lead, read⟩ := Option.bind_eq_some_iff.mp here
        obtain ⟨spelled, nonempty, numeric⟩ := of_takeQuotedDigits? read
        have whole := List.cons.inj (Text.dropLead?_eq_some.mp lead)
        have behind : "d=\"".toList ++ digits ++ '\x22' :: after =
            front ++ 'i' :: ("d=\"".toList ++ rest) := by
          rw [List.append_assoc, spelled]
          exact whole.2
        -- the attribute begins with a letter that what is found here has at its own start only
        obtain ⟨trail, before, -⟩ :=
          ends_before_mark (by decide) (by decide) (by decide) numeric behind
        exact first [] digits trail (by rw [before, ← whole.1]; rfl) nonempty numeric
      rw [List.mem_cons, not_or] at inside
      rw [List.cons_append, takeAttribute?_skip absent (Ne.symm inside.1)]
      refine ih inside.2 (by rwa [List.getLastD_cons] at ends)
        fun lead digits trail spelled nonempty numeric => ?_
      have later := first (c :: lead) digits trail (by rw [spelled]; rfl) nonempty numeric
      rwa [List.getLastD_cons] at later

theorem takeAttribute?_cons_cases (h : takeAttribute? previous (c :: rest) = some (digits, after)) :
    (attributeStart ++ digits ++ '\x22' :: after = c :: rest ∧
        ∀ c ∈ digits, Text.isPatternDigit c = true) ∨
      takeAttribute? c rest = some (digits, after) := by
  rw [takeAttribute?] at h
  split at h
  · next found here =>
    obtain rfl : found = (digits, after) := Option.some.inj h
    split at here
    · cases here
    · obtain ⟨value, lead, quoted⟩ := Option.bind_eq_some_iff.mp here
      obtain ⟨spelled, -, numeric⟩ := of_takeQuotedDigits? quoted
      rw [← Text.dropLead?_eq_some.mp lead, ← spelled, List.append_assoc]
      exact .inl ⟨rfl, numeric⟩
  · split at h
    · cases h
    · exact .inr h

/-- What is found before an element ends before it; otherwise the search goes on inside. -/
theorem takeAttribute?_append_less
    (h : takeAttribute? previous (front ++ '<' :: rest) = some (digits, after)) :
    (∃ between, after = between ++ '<' :: rest) ∨
      takeAttribute? '<' rest = some (digits, after) := by
  induction front generalizing previous with
  | nil =>
      refine .inr ?_
      rwa [List.nil_append, takeAttribute?_skip_of_ne (by decide) (by decide)] at h
  | cons c front ih =>
      rcases takeAttribute?_cons_cases h with ⟨spelled, numeric⟩ | later
      · -- no part of the attribute is an angle bracket, so that all of it stands before the element
        have whole : attributeStart ++ digits ++ '\x22' :: after = (c :: front) ++ '<' :: rest := spelled
        obtain ⟨between, -, behind⟩ :=
          ends_before_mark (by decide) (by decide) (by decide) numeric whole
        exact .inl ⟨between, behind⟩
      · exact ih later

theorem takeAttribute?_append (free : 'i' ∉ front) (inside : '>' ∉ front) (rest : Markup) :
    takeAttribute? previous (front ++ rest) = takeAttribute? (front.getLastD previous) rest := by
  induction front generalizing previous with
  | nil => rfl
  | cons c front ih =>
      rw [List.mem_cons, not_or] at free inside
      rw [List.cons_append, takeAttribute?_skip_of_ne (Ne.symm free.1) (Ne.symm inside.1),
        ih free.2 inside.2, List.getLastD_cons]

theorem of_takeId? (h : takeId? text = some (digits, after)) :
    ∃ rest, text = elementStart ++ rest ∧ takeAttribute? 'r' rest = some (digits, after) := by
  rw [takeId?] at h
  split at h
  · cases h
  · next rest lead =>
    split at h
    · cases h
    · exact ⟨rest, (Text.dropLead?_eq_some.mp lead).symm, h⟩

theorem takeId?_append_less (h : takeId? (c :: front ++ '<' :: rest) = some (digits, after)) :
    (∃ between, after = between ++ '<' :: rest) ∨
      takeAttribute? '<' rest = some (digits, after) := by
  obtain ⟨entered, spelled, found⟩ := of_takeId? h
  have name : "wp:docPr".toList <+: front ++ '<' :: rest := ⟨entered, (List.cons.inj spelled).2.symm⟩
  obtain ⟨between, before⟩ := (Text.prefix_append_cons_iff (by decide) _ _).mp name
  have same : "wp:docPr".toList ++ entered = "wp:docPr".toList ++ (between ++ '<' :: rest) := by
    rw [← List.append_assoc, before]
    exact (List.cons.inj spelled).2.symm
  rw [List.append_cancel_left same] at found
  exact takeAttribute?_append_less found

theorem idTexts_of_takeId? (h : takeId? text = some (digits, after)) :
    idTexts text = digits :: idTexts after := by
  rw [idTexts]
  split
  · next found => rw [h] at found; cases found; rfl
  · next none => rw [h] at none; cases none

theorem idTexts_cons (h : takeId? (c :: rest) = none) : idTexts (c :: rest) = idTexts rest := by
  rw [idTexts]
  split
  · next found => rw [h] at found; cases found
  · rfl

end Search

namespace Numbered

variable {element : Markup} {digits : List Char} {id : Nat}

theorem exists_takeAttribute? (h : Numbered element digits) (isElement : Markup.IsElement element)
    (read : Text.decimal? digits = some id) (back : Markup) :
    ∃ inner after, element ++ back = '<' :: inner ∧
      takeId? (element ++ back) = some (digits, after) ∧
      takeAttribute? '<' inner = some (digits, after) := by
  obtain ⟨front, behind, leads, spelled⟩ := h
  have inside : '>' ∉ front := by
    have closed : Markup.IsElement (elementStart ++ front ++
        (attributeStart ++ (digits ++ '\x22' :: behind))) := by
      simpa only [spelled, List.append_assoc] using isElement
    exact fun mem => closed.not_mem_of_append (by simp) (List.mem_append_right _ mem)
  have apart : ¬ (front ++ (attributeStart ++ (digits ++ '\x22' :: (behind ++ back)))).head?.any
      Text.isWordChar = true := by
    have begins := leads.begins
    cases front with
    | nil => exact absurd leads.ends (by decide)
    | cons c front => simpa using begins
  have found : takeAttribute? 'r' (front ++ (attributeStart ++ (digits ++ '\x22' :: (behind ++ back)))) =
      some (digits, behind ++ back) :=
    takeAttribute?_of_leads inside leads.ends leads.first (takeQuotedDigits?_of_decimal? read _)
  have whole : element ++ back =
      elementStart ++ (front ++ (attributeStart ++ (digits ++ '\x22' :: (behind ++ back)))) := by
    rw [spelled]
    simp only [List.append_assoc, List.cons_append]
  refine ⟨"wp:docPr".toList ++ _, _, whole, ?_, (takeAttribute?_append (by decide) (by decide) _).trans
    found⟩
  rw [takeId?, Text.dropLead?_eq_some.mpr whole.symm]
  simp only [if_neg apart]
  exact found

/-- The number of an element is among those that are found in a text with the element. -/
theorem mem_idTexts (h : Numbered element digits) (isElement : Markup.IsElement element)
    (read : Text.decimal? digits = some id) (front back : Markup) :
    digits ∈ idTexts (front ++ (element ++ back)) := by
  obtain ⟨inner, after, whole, taken, entered⟩ := h.exists_takeAttribute? isElement read back
  -- along the search: what it finds before the element only makes the text in front of it shorter
  generalize spelled : front ++ (element ++ back) = text
  induction text using idTexts.induct generalizing front with
  | case1 text digits' after' found ih =>
      rw [idTexts_of_takeId? found]
      cases front with
      | nil =>
          rw [← spelled, List.nil_append, taken] at found
          cases found
          exact List.mem_cons_self
      | cons c front =>
          rw [← spelled, whole] at found
          rcases takeId?_append_less found with ⟨between, rest⟩ | within
          · exact List.mem_cons_of_mem digits' (ih between (by rw [rest, whole]))
          · rw [entered] at within
            cases within
            exact List.mem_cons_self
  | case2 absent =>
      rw [whole] at spelled
      simp at spelled
  | case3 c rest absent ih =>
      rw [idTexts_cons absent]
      cases front with
      | nil =>
          rw [← spelled, List.nil_append, taken] at absent
          cases absent
      | cons d front => exact ih front (List.cons.inj spelled).2

end Numbered

section Greatest

variable {text element : Markup} {digits : List Char} {id : Nat}

theorem foldl_max_le_iff {numbers : List Nat} {start bound : Nat} :
    numbers.foldl max start ≤ bound ↔ start ≤ bound ∧ ∀ number ∈ numbers, number ≤ bound := by
  induction numbers generalizing start with
  | nil => simp
  | cons first rest ih => rw [List.foldl_cons, ih, Nat.max_le, List.forall_mem_cons, and_assoc]

theorem greatestIdIn_eq (text : Markup) :
    greatestIdIn text =
      (((idTexts text).filterMap Text.decimal?).filter (· ≤ greatestId)).foldl max 0 := by
  rw [greatestIdIn, List.foldl_filter]
  simp only [decide_eq_true_eq]

/-- No number that is spelled as it is searched for is greater than the greatest one. -/
theorem Numbered.le_greatestIdIn (h : Numbered element digits) (listed : element ∈ Markup.elements text)
    (read : Text.decimal? digits = some id) (fits : id ≤ greatestId) : id ≤ greatestIdIn text := by
  obtain ⟨isElement, front, back, whole⟩ := Markup.isElement_of_mem_elements listed
  have found := h.mem_idTexts isElement read front back
  rw [← List.append_assoc, whole] at found
  rw [greatestIdIn_eq]
  exact (foldl_max_le_iff.mp le_rfl).2 id (List.mem_filter.mpr
    ⟨List.mem_filterMap.mpr ⟨digits, found, read⟩, decide_eq_true fits⟩)

end Greatest

/-- The numbers of the drawings of a text, as they are read off its elements. -/
def numbers (text : Markup) : List (List Char) :=
  Markup.values "wp:docPr" "id" text

/-- A drawing of a picture, as it is read: elements and no text, which give it one number, the name of
    a file, a relationship that it refers to, and a size in pixels. -/
structure Shows (drawing : Markup) (relationship file : List Char) (width height : Nat) : Prop where
  bare : (Markup.elements drawing).flatten = drawing
  numbered : ∃ id, numbers drawing = [number id]
  named : Markup.values "pic:cNvPr" "name" drawing = [file]
  referred : Markup.values "a:blip" "r:embed" drawing = [relationship]
  wide : Markup.values "wp:extent" "cx" drawing = [number (width * unitsPerPixel)]
  high : Markup.values "wp:extent" "cy" drawing = [number (height * unitsPerPixel)]

section Written

variable (relationship : List Char) (id : Nat) (file : List Char) (width height : Nat)

theorem elements_inline :
    Markup.elements (inline relationship id file width height) =
      inlineElements relationship id file width height :=
  (Markup.sealed_flatten
    (Markup.isElement_of_mem_inlineElements relationship id file width height)).2

theorem not_mem_number (n : Nat) : '\x22' ∉ number n := fun mem =>
  absurd (Nat.isDigit_of_mem_toDigits (by decide) (by decide) mem) (by decide)

/-- The drawing of a picture has its number and no other. -/
theorem numbers_inline : numbers (inline relationship id file width height) = [number id] := by
  have readable : Markup.ReadableAttributes
      [("id", number id), ("name", "Picture ".toList ++ number id)] :=
    .cons (by decide) (not_mem_number id) (.cons (by decide)
      (fun mem => (List.mem_append.mp mem).elim (by decide) (not_mem_number id)) (by decide))
  rw [numbers, Markup.values, elements_inline, inlineElements]
  simp (disch := first | assumption | decide) only [Markup.filterMap_valueIn?_startTag,
    Markup.filterMap_valueIn?_endTag, Markup.filterMap_valueIn?_emptyTag,
    Markup.filterMap_valueIn?_emptyTag_self, List.filterMap_nil]
  rfl

/-- What is written in place of an image tag is read as a drawing of its picture. -/
theorem shows_inline :
    Shows (inline relationship id file width height) (Markup.escape relationship)
      (Markup.escape file) width height := by
  have quoteless (text : List Char) : '\x22' ∉ Markup.escape text :=
    Markup.not_mem_escape (by decide)
  have extent : Markup.ReadableAttributes
      [("cx", number (width * unitsPerPixel)), ("cy", number (height * unitsPerPixel))] :=
    .cons (by decide) (not_mem_number _) (.cons (by decide) (not_mem_number _) (by decide))
  have named : Markup.ReadableAttributes [("id", ['0']), ("name", Markup.escape file)] :=
    .cons (by decide) (by decide) (.cons (by decide) (quoteless file) (by decide))
  have linked : Markup.ReadableAttributes
      [("xmlns:r", referenceNamespace), ("r:embed", Markup.escape relationship)] :=
    .cons (by decide) (by decide) (.cons (by decide) (quoteless relationship) (by decide))
  constructor
  case bare => rw [elements_inline, inline]
  case numbered => exact ⟨id, numbers_inline ..⟩
  all_goals
    rw [Markup.values, elements_inline, inlineElements]
    simp (disch := first | assumption | decide) only [Markup.filterMap_valueIn?_startTag,
      Markup.filterMap_valueIn?_endTag, Markup.filterMap_valueIn?_emptyTag,
      Markup.filterMap_valueIn?_emptyTag_self, List.filterMap_nil]
    rfl

end Written

end Drawing

end Stencil
