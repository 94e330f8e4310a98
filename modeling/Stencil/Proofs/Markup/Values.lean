import Stencil.Proofs.Markup.Groups
import Stencil.Proofs.Text.Split

/-! # Values are inert

An escaped text has no character of its own that markup or an attribute could end at, and a
reader of the five predefined entities gets from it the text without its forbidden characters, which
are those that XML 1.0 does not produce.

Main statement: whatever a value spells out, it is read back from where it was written, with run
breaks between its lines when those are asked for.
-/

namespace Stencil.Markup

/-- The text that a reader of the five predefined entities sees. -/
def unescape : Markup → List Char
  | '&' :: 'a' :: 'm' :: 'p' :: ';' :: rest => '&' :: unescape rest
  | '&' :: 'l' :: 't' :: ';' :: rest => '<' :: unescape rest
  | '&' :: 'g' :: 't' :: ';' :: rest => '>' :: unescape rest
  | '&' :: 'q' :: 'u' :: 'o' :: 't' :: ';' :: rest => '\x22' :: unescape rest
  | '&' :: 'a' :: 'p' :: 'o' :: 's' :: ';' :: rest => '\x27' :: unescape rest
  | c :: rest => c :: unescape rest
  | [] => []

/-- The production of XML 1.0 for characters:
    `Char ::= #x9 | #xA | #xD | [#x20-#xD7FF] | [#xE000-#xFFFD] | [#x10000-#x10FFFF]`. -/
def IsXmlChar (c : Char) : Prop :=
  c.toNat = 0x9 ∨ c.toNat = 0xa ∨ c.toNat = 0xd ∨ (0x20 ≤ c.toNat ∧ c.toNat ≤ 0xd7ff) ∨
    (0xe000 ≤ c.toNat ∧ c.toNat ≤ 0xfffd) ∨ (0x10000 ≤ c.toNat ∧ c.toNat ≤ 0x10ffff)

instance : DecidablePred IsXmlChar := fun c =>
  inferInstanceAs (Decidable (c.toNat = 0x9 ∨ c.toNat = 0xa ∨ c.toNat = 0xd ∨
    (0x20 ≤ c.toNat ∧ c.toNat ≤ 0xd7ff) ∨ (0xe000 ≤ c.toNat ∧ c.toNat ≤ 0xfffd) ∨
    (0x10000 ≤ c.toNat ∧ c.toNat ≤ 0x10ffff)))

/-- What a reader is to see of a value: vertical tabs are newlines, and what XML 1.0 forbids is
    gone. -/
def told (value : List Char) : List Char :=
  (value.map fun c => if c = '\x0b' then '\n' else c).filter fun c => IsXmlChar c

/-- Whether the text can stand in the content of an element and in an attribute without being
    taken for markup. -/
structure Inert (text : Markup) : Prop where
  unquoted : ∀ mark ∈ ['<', '>', '\x22', '\x27'], mark ∉ text
  /-- An ampersand begins one of the predefined entities. -/
  referenced : ∀ before after, text = before ++ '&' :: after →
    ∃ name ∈ ["amp;", "lt;", "gt;", "quot;", "apos;"], name.toList <+: after
  legal : ∀ c ∈ text, IsXmlChar c

/-- What is let through into markup is what XML 1.0 produces. -/
theorem isLegal_iff {c : Char} : isLegal c = true ↔ IsXmlChar c := by
  have same (d : Char) : c = d ↔ c.toNat = d.toNat := Char.toNat_inj.symm
  have least (d : Char) : d ≤ c ↔ d.toNat ≤ c.toNat := UInt32.le_iff_toNat_le
  have most (d : Char) : c ≤ d ↔ c.toNat ≤ d.toNat := UInt32.le_iff_toNat_le
  have tab : '\t'.toNat = 0x9 := rfl
  have newline : '\n'.toNat = 0xa := rfl
  have returns : '\r'.toNat = 0xd := rfl
  have blank : '\u0020'.toNat = 0x20 := rfl
  have low : '\ud7ff'.toNat = 0xd7ff := rfl
  have high : '\ue000'.toNat = 0xe000 := rfl
  have last : '\ufffd'.toNat = 0xfffd := rfl
  have valid : c.toNat < 0xd800 ∨ (0xdfff < c.toNat ∧ c.toNat < 0x110000) := c.valid
  rw [isLegal, IsXmlChar]
  simp only [Bool.or_eq_true, Bool.and_eq_true, beq_iff_eq, decide_eq_true_eq, same, least, most, tab,
    newline, returns, blank, low, high, last]
  omega

theorem filter_isLegal (text : List Char) :
    text.filter isLegal = text.filter fun c => IsXmlChar c :=
  List.filter_congr fun c _ => by rw [Bool.eq_iff_iff, isLegal_iff, decide_eq_true_iff]

namespace Inert

theorem nil : Inert [] where
  unquoted _ _ := List.not_mem_nil
  referenced before _ whole := absurd whole.symm (by simp)
  legal := List.forall_mem_nil _

theorem append {front back : Markup} (h : Inert front) (h' : Inert back) :
    Inert (front ++ back) where
  unquoted mark listed mem :=
    (List.mem_append.mp mem).elim (h.unquoted mark listed) (h'.unquoted mark listed)
  referenced before after whole := by
    rcases List.append_eq_append_iff.mp whole with ⟨later, -, rest⟩ | ⟨tail, inFront, rest⟩
    · exact h'.referenced later after rest
    · cases tail with
      | nil => exact h'.referenced [] after rest.symm
      | cons c tail =>
          rw [List.cons_append, List.cons.injEq] at rest
          obtain ⟨rfl, rfl⟩ := rest
          obtain ⟨name, listed, lead⟩ := h.referenced before tail inFront
          exact ⟨name, listed, lead.trans (List.prefix_append tail back)⟩
  legal := List.forall_mem_append.mpr ⟨h.legal, h'.legal⟩

end Inert

theorem isLegal_of_mem_entities {entity : Char × List Char} (listed : entity ∈ entities) :
    isLegal entity.1 = true := by
  have all : ∀ entity ∈ entities, isLegal entity.1 = true := by decide
  exact all entity listed

/-- An ampersand in an escaped character begins its entity. -/
theorem referenced_of_escapeChar {c : Char} {before after : Markup}
    (whole : escapeChar c = before ++ '&' :: after) :
    ∃ name ∈ ["amp;", "lt;", "gt;", "quot;", "apos;"], name.toList <+: after := by
  rcases escapeChar_cases c with ⟨name, listed, written⟩ | ⟨unnamed, -, written⟩ | ⟨-, written⟩
  · have all : ∀ entity ∈ entities, '&' ∉ entity.2 ++ [';'] ∧
        ∃ name ∈ ["amp;", "lt;", "gt;", "quot;", "apos;"], name.toList = entity.2 ++ [';'] := by
      decide
    obtain ⟨alone, spelling, known, spelled⟩ := all _ listed
    rw [written, List.cons_append] at whole
    cases before with
    | nil =>
        obtain ⟨-, rfl⟩ := List.cons.inj whole
        exact ⟨spelling, known, spelled ▸ List.prefix_rfl⟩
    | cons d before =>
        obtain ⟨-, later⟩ := List.cons.inj whole
        exact absurd (later ▸ List.mem_append_right before List.mem_cons_self) alone
  · have mem : '&' ∈ [c] := written ▸ whole ▸ List.mem_append_right before List.mem_cons_self
    exact absurd (List.mem_singleton.mp mem).symm (unnamed ('&', _) List.mem_cons_self)
  · cases (List.append_eq_nil_iff.mp (whole.symm.trans written)).2

theorem isLegal_of_mem_escapeChar {c d : Char} (mem : d ∈ escapeChar c) : isLegal d = true := by
  rcases escapeChar_cases c with ⟨name, listed, written⟩ | ⟨-, legal, written⟩ | ⟨-, written⟩
  · have all : ∀ entity ∈ entities, ('&' :: entity.2 ++ [';']).all isLegal := by decide
    exact List.all_eq_true.mp (all _ listed) d (written ▸ mem)
  · rw [written, List.mem_singleton] at mem
    exact mem ▸ legal
  · rw [written] at mem
    cases mem

theorem inert_escapeChar (c : Char) : Inert (escapeChar c) where
  unquoted _ quoted := not_mem_escapeChar quoted
  referenced _ _ := referenced_of_escapeChar
  legal _ mem := isLegal_iff.mp (isLegal_of_mem_escapeChar mem)

theorem inert_escape (text : List Char) : Inert (escape text) := by
  induction text with
  | nil => exact .nil
  | cons c rest ih => exact (inert_escapeChar c).append ih

theorem unescape_cons {c : Char} (other : c ≠ '&') (rest : Markup) :
    unescape (c :: rest) = c :: unescape rest := by
  rw [unescape]
  all_goals simp [other]

theorem unescape_entity {entity : Char × List Char} (listed : entity ∈ entities) (rest : Markup) :
    unescape ('&' :: entity.2 ++ [';'] ++ rest) = entity.1 :: unescape rest := by
  have all : ∀ entity ∈ entities,
      unescape ('&' :: entity.2 ++ [';'] ++ rest) = entity.1 :: unescape rest := by
    simp only [entities, List.forall_mem_cons]
    exact ⟨rfl, rfl, rfl, rfl, rfl, List.forall_mem_nil _⟩
  exact all entity listed

theorem unescape_escapeChar_append (c : Char) (rest : Markup) :
    unescape (escapeChar c ++ rest) = [c].filter isLegal ++ unescape rest := by
  rcases escapeChar_cases c with ⟨name, listed, written⟩ | ⟨unnamed, legal, written⟩ |
    ⟨illegal, written⟩
  · rw [written, List.filter_cons_of_pos (isLegal_of_mem_entities listed)]
    exact unescape_entity listed rest
  · rw [written, List.filter_cons_of_pos legal]
    exact unescape_cons (unnamed ('&', _) List.mem_cons_self) rest
  · rw [written, List.filter_cons_of_neg (by simp [illegal])]
    rfl

/-- An escaped text is read as what XML 1.0 allows of it. -/
theorem unescape_escape (text : List Char) : unescape (escape text) = text.filter isLegal := by
  induction text with
  | nil => rfl
  | cons c rest ih =>
      rw [escape, List.flatMap_cons, unescape_escapeChar_append, ← escape, ih,
        ← List.filter_append, List.singleton_append]

/-- A forbidden character leaves no trace. -/
theorem escape_filter (text : List Char) : escape (text.filter isLegal) = escape text := by
  induction text with
  | nil => rfl
  | cons c rest ih =>
      cases legal : isLegal c with
      | true => rw [List.filter_cons_of_pos legal, ← List.singleton_append, escape_append, ih,
          ← escape_append, List.singleton_append]
      | false =>
          have written : escape [c] = [] := by
            rcases escapeChar_cases c with ⟨name, listed, -⟩ | ⟨-, isLegal, -⟩ | ⟨-, written⟩
            · cases legal.symm.trans (isLegal_of_mem_entities listed)
            · cases legal.symm.trans isLegal
            · exact (List.flatMap_singleton escapeChar c).trans written
          rw [List.filter_cons_of_neg (by simp [legal]), ih, ← List.singleton_append,
            escape_append, written, List.nil_append]

section LineEnds

/-- Characters that are no part of a line end are written apart from it. -/
theorem joinLineEnds_append {front : Markup} (absent : '\r' ∉ front) (back : Markup) :
    joinLineEnds (front ++ back) = front ++ joinLineEnds back := by
  induction front with
  | nil => rfl
  | cons c front ih =>
      rw [List.mem_cons, not_or] at absent
      rw [List.cons_append, joinLineEnds, ih absent.2]
      · rfl
      · rintro - rfl -
        exact absent.1 rfl

theorem joinLineEnds_of_not_mem {text : Markup} (absent : '\n' ∉ text) :
    joinLineEnds text = text := by
  fun_induction joinLineEnds text with
  | case1 rest => exact absurd (by simp) absent
  | case2 c rest _ ih => rw [ih fun mem => absent (List.mem_cons_of_mem c mem)]
  | case3 => rfl

theorem joinLineEnds_eq_replaceEach (text : List Char) :
    joinLineEnds text = Text.replaceEach ['\r', '\n'] ['\n'] text := by
  fun_induction joinLineEnds text with
  | case1 rest ih =>
      rw [ih]
      exact (Text.replaceEach_append (List.cons_ne_nil _ _) ['\n'] rest).symm
  | case2 c rest other ih =>
      have absent : ¬ ['\r', '\n'] <+: c :: rest := by
        rintro ⟨tail, whole⟩
        obtain ⟨rfl, rfl⟩ := List.cons.inj whole
        exact other tail rfl rfl
      rw [ih, Text.replaceEach_cons absent]
  | case3 => exact (Text.replaceEach_nil (List.cons_ne_nil _ _) ['\n']).symm

/-- A character of a line end is written for itself only. -/
theorem not_mem_escapeChar_of_ne {c mark : Char} (ends : mark ∈ ['\r', '\n']) (other : mark ≠ c) :
    mark ∉ escapeChar c := by
  rcases escapeChar_cases c with ⟨name, listed, written⟩ | ⟨-, -, written⟩ | ⟨-, written⟩
  · exact written ▸ not_mem_of_mem_entities listed
      (List.mem_append_right ['<', '>', '\x22', '\x27'] ends)
  · rw [written, List.mem_singleton]
    exact other
  · rw [written]
    exact List.not_mem_nil

/-- An escaped text begins with a newline only if the text does. -/
theorem head_of_escape_eq_cons {text : List Char} {rest : Markup}
    (legal : ∀ c ∈ text, isLegal c = true) (starts : escape text = '\n' :: rest) :
    ∃ tail, text = '\n' :: tail := by
  cases text with
  | nil => cases starts
  | cons c tail =>
      rw [escape, List.flatMap_cons] at starts
      rcases escapeChar_cases c with ⟨name, -, written⟩ | ⟨-, -, written⟩ | ⟨illegal, -⟩
      · rw [written] at starts
        cases starts
      · rw [written] at starts
        obtain ⟨rfl, -⟩ := List.cons.inj starts
        exact ⟨tail, rfl⟩
      · cases illegal.symm.trans (legal c List.mem_cons_self)

/-- Line ends may be joined before or after a text without forbidden characters is escaped. -/
theorem joinLineEnds_escape {text : List Char} (legal : ∀ c ∈ text, isLegal c = true) :
    joinLineEnds (escape text) = escape (joinLineEnds text) := by
  fun_induction joinLineEnds text with
  | case1 rest ih =>
      rw [List.forall_mem_cons, List.forall_mem_cons] at legal
      exact congrArg ('\n' :: ·) (ih legal.2.2)
  | case2 c rest other ih =>
      rw [List.forall_mem_cons] at legal
      have apart : escape (c :: joinLineEnds rest) = escapeChar c ++ escape (joinLineEnds rest) :=
        List.flatMap_cons
      rw [apart, ← ih legal.2, escape, List.flatMap_cons, ← escape]
      by_cases returns : c = '\r'
      · subst returns
        refine joinLineEnds.eq_2 _ _ fun later _ starts => ?_
        obtain ⟨tail, whole⟩ := head_of_escape_eq_cons legal.2 starts
        exact other tail rfl whole
      · exact joinLineEnds_append (not_mem_escapeChar_of_ne (by decide) (Ne.symm returns)) _
  | case3 => rfl

theorem splitAll_escape (text : List Char) :
    Text.splitAll '\n' (escape text) = (Text.splitAll '\n' text).map escape :=
  Text.splitAll_flatMap (by decide)
    (fun _ other => not_mem_escapeChar_of_ne (by decide) (Ne.symm other)) text

end LineEnds

section Values

theorem isLegal_of_mem_told {value : List Char} {c : Char} (mem : c ∈ told value) :
    isLegal c = true :=
  isLegal_iff.mpr (of_decide_eq_true (List.mem_filter.mp mem).2)

theorem escape_replaceChar (value : List Char) :
    escape (Text.replaceChar '\x0b' ['\n'] value) = escape (told value) := by
  have mapped : Text.replaceChar '\x0b' ['\n'] value =
      value.map fun c => if c = '\x0b' then '\n' else c := by
    rw [Text.replaceChar, List.map_eq_flatMap]
    congr 1
    funext c
    split <;> rfl
  rw [mapped, told, ← filter_isLegal, escape_filter]

/-- The lines of a value are written one by one. -/
theorem ofValue_eq_join (value : List Char) :
    ofValue value true =
      Text.join runBreak ((Text.splitAll '\n' (joinLineEnds (told value))).map escape) := by
  rw [← splitAll_escape, ← joinLineEnds_escape fun c => isLegal_of_mem_told, ofValue,
    escape_replaceChar, Bool.true_and]
  split
  · rfl
  · next absent =>
    rw [List.contains_iff_mem] at absent
    rw [joinLineEnds_of_not_mem absent, Text.splitAll_of_not_mem absent, Text.join]

/-- An escaped text is inert. A value is read back from where it was written without its
    forbidden characters and with newlines for its vertical tabs; where its lines were asked for,
    they are what stands between the run breaks. -/
theorem told_ofValue (value : List Char) :
    Inert (escape value) ∧
    unescape (ofValue value false) = told value ∧
    Text.join ['\n'] ((Text.splitEach runBreak (ofValue value true)).map unescape) =
      Text.replaceEach ['\r', '\n'] ['\n'] (told value) ∧
    ∀ piece ∈ Text.splitEach runBreak (ofValue value true), '\n' ∉ piece := by
  have told_legal : (told value).filter isLegal = told value :=
    List.filter_eq_self.mpr fun c => isLegal_of_mem_told
  -- a run break begins with a bracket, and no line has one
  have lines : Text.splitEach runBreak (ofValue value true) =
      (Text.splitAll '\n' (joinLineEnds (told value))).map escape := by
    rw [ofValue_eq_join]
    refine Text.splitEach_join (by simpa using Text.splitAll_ne_nil _ _) ?_
    rw [List.forall_mem_map]
    exact fun line _ => not_mem_escape (by decide)
  refine ⟨inert_escape value, ?_, ?_, ?_⟩
  · rw [ofValue, escape_replaceChar, Bool.false_and, if_neg Bool.false_ne_true, unescape_escape,
      told_legal]
  · have read : ((Text.splitAll '\n' (joinLineEnds (told value))).map escape).map unescape =
        Text.splitAll '\n' (joinLineEnds (told value)) := by
      rw [List.map_map]
      refine (List.map_congr_left fun line listed => ?_).trans (List.map_id _)
      rw [Function.comp_apply, unescape_escape, id, List.filter_eq_self]
      exact fun c mem => isLegal_of_mem_told
        (mem_of_mem_joinLineEnds (Text.mem_of_mem_splitAll listed mem))
    rw [lines, read, Text.join_splitAll, joinLineEnds_eq_replaceEach]
  · rw [lines, ← splitAll_escape]
    exact fun piece => Text.not_mem_of_mem_splitAll

end Values

section Breaks

variable {value : List Char} {linebreaks : Bool}

/-- Whether a value is written with run breaks. -/
def Breaks (value : List Char) (linebreaks : Bool) : Prop :=
  linebreaks = true ∧ ('\n' ∈ value ∨ '\x0b' ∈ value)

theorem newline_mem_joinLineEnds {text : List Char} (mem : '\n' ∈ text) :
    '\n' ∈ joinLineEnds text := by
  fun_induction joinLineEnds text with
  | case1 rest => exact List.mem_cons_self
  | case2 c rest _ ih =>
      rcases List.mem_cons.mp mem with rfl | later
      · exact List.mem_cons_self
      · exact List.mem_cons_of_mem c (ih later)
  | case3 => cases mem

theorem newline_mem_escape {text : List Char} : '\n' ∈ escape text ↔ '\n' ∈ text := by
  rw [escape, List.mem_flatMap]
  constructor
  · rintro ⟨c, mem, written⟩
    by_cases same : '\n' = c
    · exact same ▸ mem
    · exact absurd written (not_mem_escapeChar_of_ne (by decide) same)
  · exact fun mem => ⟨'\n', mem, by decide⟩

theorem newline_mem_told : '\n' ∈ told value ↔ '\n' ∈ value ∨ '\x0b' ∈ value := by
  rw [told, List.mem_filter, and_iff_left (by decide), List.mem_map]
  constructor
  · rintro ⟨c, mem, same⟩
    split at same
    · next tab => exact .inr (tab ▸ mem)
    · exact .inl (same ▸ mem)
  · rintro (newline | tab)
    · exact ⟨'\n', newline, rfl⟩
    · exact ⟨'\x0b', tab, rfl⟩

theorem ofValue_of_not_breaks (whole : ¬ Breaks value linebreaks) :
    ofValue value linebreaks = escape (told value) := by
  rw [ofValue, escape_replaceChar]
  refine if_neg fun broken => whole ?_
  rw [Bool.and_eq_true, List.contains_iff_mem, newline_mem_escape, newline_mem_told] at broken
  exact broken

theorem runBreak_infix_ofValue (broken : Breaks value linebreaks) :
    runBreak <:+: ofValue value linebreaks := by
  obtain ⟨rfl, lines⟩ := broken
  have newline : '\n' ∈ escape (told value) := newline_mem_escape.mpr (newline_mem_told.mpr lines)
  rw [ofValue, escape_replaceChar, Bool.true_and, if_pos (List.contains_iff_mem.mpr newline)]
  exact Text.infix_join_splitAll runBreak (newline_mem_joinLineEnds newline)

/-- A value brings brackets exactly if it is written with run breaks. -/
theorem plain_ofValue_iff : Plain (ofValue value linebreaks) ↔ ¬ Breaks value linebreaks := by
  constructor
  · intro plain broken
    have bracket : '<' ∈ runBreak := by decide
    exact absurd (plain '<' ((runBreak_infix_ofValue broken).subset bracket)) (by decide)
  · intro whole
    rw [ofValue_of_not_breaks whole]
    exact plain_escape _

end Breaks

end Stencil.Markup
