import Stencil.Markup.Element
import Stencil.Tag

/-! # Scanning markup for tags

A span is a stretch of markup that is delimited like a tag and has no brace between its
delimiters. Text processors split typed text over several runs, so a span may hold markup
elements; a span is read as a tag without them, and they are kept beside it.

A scan cuts a source at its spans, from the left and without overlap. A span whose
identifier is no identifier stays in the literal text around it and is reported, and so is
an opening delimiter that belongs to no span. Offsets count bytes of UTF-8.

Main statement: the stretches of a source, one after the other, are the source.
-/

namespace Stencil

/-- Whether the character is no brace. -/
def isBody (c : Char) : Bool :=
  c != '{' && c != '}'

/-- The span at the start of the text and what follows it. -/
def takeSpan? : Markup → Option (Markup × Markup)
  | '{' :: '{' :: rest =>
    match rest.dropWhile isBody with
    | '}' :: '}' :: after => some ('{' :: '{' :: rest.takeWhile isBody ++ ['}', '}'], after)
    | _ => none
  | '{' :: '%' :: rest =>
    match rest.dropWhile isBody with
    | '}' :: after => some ('{' :: '%' :: rest.takeWhile isBody ++ ['}'], after)
    | _ => none
  | _ => none

/-- A span and what follows it are the text, and the span is not empty. -/
theorem append_of_takeSpan? {text span after : Markup}
    (h : takeSpan? text = some (span, after)) : span ++ after = text ∧ span ≠ [] := by
  unfold takeSpan? at h
  split at h
  all_goals first
    | cases h
    | (next rest =>
        split at h
        · next tail tailIs =>
          simp only [Option.some.injEq, Prod.mk.injEq] at h
          obtain ⟨rfl, rfl⟩ := h
          refine ⟨?_, by simp⟩
          have whole := List.takeWhile_append_dropWhile (p := isBody) (l := rest)
          rw [tailIs] at whole
          simpa using whole
        · cases h)

/-- A stretch of a source. -/
inductive Stretch where
  /-- Characters that belong to no span. -/
  | plain (text : Markup)
  /-- One span, its delimiters included. -/
  | span (text : Markup)
  deriving Repr, DecidableEq

def Stretch.text : Stretch → Markup
  | plain text => text
  | span text => text

/-- The source cut at its spans. A brace that opens no span stands at the head of a plain
    stretch. -/
def stretches : (source : Markup) → List Stretch
  | [] => []
  | c :: rest =>
    match _h : takeSpan? (c :: rest) with
    | some (span, after) => .span span :: stretches after
    | none => .plain (c :: rest.takeWhile (· != '{')) :: stretches (rest.dropWhile (· != '{'))
termination_by source => source.length
decreasing_by
  · obtain ⟨whole, nonempty⟩ := append_of_takeSpan? _h
    have sizes := congrArg List.length whole
    have positive := List.length_pos_iff.mpr nonempty
    simp only [List.length_append] at sizes
    omega
  · have := (List.dropWhile_sublist (l := rest) (· != '{')).length_le
    simp only [List.length_cons]
    omega

/-- The stretches of a source, one after the other, are the source. -/
theorem flatMap_text_stretches (source : Markup) :
    (stretches source).flatMap Stretch.text = source := by
  fun_induction stretches source with
  | case1 => rfl
  | case2 c rest span after h ih => simp [Stretch.text, ih, (append_of_takeSpan? h).1]
  | case3 c rest h ih => simp [Stretch.text, ih, List.takeWhile_append_dropWhile]

/-- A span that was recognised as a tag. -/
structure TagSpan where
  /-- The offset of the first byte of the span. -/
  start : Nat
  /-- The offset behind the last byte of the span. -/
  stop : Nat
  /-- The span without its markup elements. -/
  text : List Char
  tag : Tag
  /-- The markup elements inside the span, in order. -/
  markup : List Markup
  deriving Repr, DecidableEq

/-- One piece of a scanned source. -/
inductive Segment where
  /-- Text that is kept as it is. -/
  | literal (text : Markup)
  /-- A tag to be replaced. -/
  | tag (span : TagSpan)
  deriving Repr, DecidableEq

def Segment.tag? : Segment → Option TagSpan
  | literal _ => none
  | tag span => some span

/-- Why a text that looks like a tag is none. -/
inductive TagDefect where
  /-- The span is closed, and what it names is no identifier. -/
  | invalidIdentifier
  /-- An opening delimiter that belongs to no span. -/
  | unterminated
  deriving Repr, DecidableEq

def TagDefect.message : TagDefect → String
  | .invalidIdentifier => "invalid identifier"
  | .unterminated => "unterminated tag"

/-- A text that looks like a tag and does not follow the grammar. It stays where it is. -/
structure MalformedSpan where
  start : Nat
  stop : Nat
  text : List Char
  defect : TagDefect
  deriving Repr, DecidableEq

/-- A source cut into segments, with what is wrong in it by increasing offset. -/
structure Scan where
  segments : List Segment
  malformed : List MalformedSpan
  deriving Repr, DecidableEq

namespace Scan

/-- A span at its place: a tag if its identifier is one, else malformed. -/
def readSpan (start : Nat) (span : Markup) : TagSpan ⊕ MalformedSpan :=
  let stop := start + Text.byteSize span
  let text := Markup.visible span
  let tag := Tag.parse text
  if tag.wellFormed then .inl { start, stop, text, tag, markup := Markup.elements span }
  else .inr { start, stop, text, defect := .invalidIdentifier }

/-- Put literal text before segments; it joins a literal that they begin with. -/
def prependLiteral (text : Markup) : List Segment → List Segment
  | .literal next :: rest => .literal (text ++ next) :: rest
  | segments => .literal text :: segments

/-- The segments of the stretches, the first of which is at `start`. -/
def segmentsFrom (start : Nat) : List Stretch → List Segment
  | [] => []
  | stretch :: rest =>
    let following := segmentsFrom (start + Text.byteSize stretch.text) rest
    match stretch with
    | .plain text => prependLiteral text following
    | .span text =>
      match readSpan start text with
      | .inl span => .tag span :: following
      | .inr _ => prependLiteral text following

/-- The spans among the stretches that are no tags, the first stretch being at `start`. -/
def invalidFrom (start : Nat) : List Stretch → List MalformedSpan
  | [] => []
  | stretch :: rest =>
    let following := invalidFrom (start + Text.byteSize stretch.text) rest
    match stretch with
    | .plain _ => following
    | .span text =>
      match readSpan start text with
      | .inl _ => following
      | .inr span => span :: following

/-- The opening delimiters of the source, from the left and without overlap: the offset of
    each, and the source from there on. -/
def openersFrom (start : Nat) (source : Markup) : List (Nat × Markup) :=
  match _h : source.dropWhile (· != '{') with
  | [] => []
  | brace :: rest =>
    let place := start + Text.byteSize (source.takeWhile (· != '{'))
    match rest with
    | [] => []
    | c :: after =>
      if c = '{' ∨ c = '%' then (place, brace :: c :: after) :: openersFrom (place + 2) after
      else openersFrom (place + 1) (c :: after)
termination_by source.length
decreasing_by
  all_goals
    have shorter := (List.dropWhile_sublist (l := source) (· != '{')).length_le
    simp only [_h, List.length_cons] at shorter ⊢
    omega

/-- How many characters of an unterminated tag are reported. -/
def reportWindow : Nat := 24

/-- The opening delimiters that begin outside of all the given byte ranges. -/
def unterminated (covered : List (Nat × Nat)) (source : Markup) : List MalformedSpan :=
  (openersFrom 0 source).filterMap fun (start, rest) =>
    if covered.any fun (first, stop) => first ≤ start && start < stop then none
    else
      let text := rest.take reportWindow
      some { start, stop := start + Text.byteSize text, text, defect := .unterminated }

/-- The recognised tags, in source order. -/
def tags (scan : Scan) : List TagSpan :=
  scan.segments.filterMap Segment.tag?

/-- Whether anything in the source is to be replaced. -/
def hasTags (scan : Scan) : Bool :=
  !scan.tags.isEmpty

end Scan

/-- Cut a source into literal text and tags. -/
def scan (source : Markup) : Scan :=
  let cut := stretches source
  let segments := Scan.segmentsFrom 0 cut
  let invalid := Scan.invalidFrom 0 cut
  let covered := (segments.filterMap Segment.tag?).map (fun span => (span.start, span.stop)) ++
    invalid.map fun span => (span.start, span.stop)
  { segments
    malformed := (invalid ++ Scan.unterminated covered source).mergeSort
      fun one other => one.start ≤ other.start }

end Stencil
