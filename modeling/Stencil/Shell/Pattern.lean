import Stencil.Regex.CharacterSet
import Stencil.Shell.ByteText

/-! # Patterns

A pattern is a text in which an asterisk stands for any text, a question mark for any
character, and brackets for one of the characters in them, unless they are quoted. A pattern
matches a text as a whole.
-/

namespace Stencil.Shell

/-- A character that may be quoted, so that it stands for itself. -/
structure Glyph where
  char : Char
  quoted : Bool
  deriving Repr, DecidableEq

def glyphText (glyphs : List Glyph) : ByteText :=
  glyphs.map Glyph.char

/-- A part of a pattern. -/
inductive PatternItem where
  | one (char : Char)
  | any
  | many
  | set (listed : CharacterSet)
  deriving Repr, DecidableEq

/-- The name of a class of characters from behind its opening, and what follows it. -/
def takeClass? (glyphs : List Glyph) : Option (String × List Glyph) :=
  let name := glyphs.takeWhile fun glyph => glyph.char ≠ ':'
  match glyphs.drop name.length with
  | _ :: ⟨']', _⟩ :: rest =>
    let name := String.ofList (glyphText name)
    if (isInClass? name).isSome then some (name, rest) else none
  | _ => none

/-- The members of a set up to its closing bracket, and what follows it. The first bracket
    is a member. -/
def takeMembers? (fuel : Nat) (isFirst : Bool) (glyphs : List Glyph) :
    Option (List SetMember × List Glyph) :=
  match fuel with
  | 0 => none
  | fuel + 1 =>
    match glyphs with
    | [] => none
    | glyph :: rest =>
      if glyph.char = ']' && !glyph.quoted && !isFirst then some ([], rest)
      else
        let ordinary : Option (List SetMember × List Glyph) :=
          match rest with
          | ⟨'-', false⟩ :: last :: after =>
            if last.char = ']' && !last.quoted then
              (takeMembers? fuel false rest).map fun (members, after) =>
                (.range glyph.char glyph.char :: members, after)
            else
              (takeMembers? fuel false after).map fun (members, after) =>
                (.range glyph.char last.char :: members, after)
          | _ =>
            (takeMembers? fuel false rest).map fun (members, after) =>
              (.range glyph.char glyph.char :: members, after)
        match glyph, rest with
        | ⟨'[', false⟩, ⟨':', false⟩ :: after =>
          match takeClass? after with
          | some (name, after) =>
            (takeMembers? fuel false after).map fun (members, after) =>
              (.kind name :: members, after)
          | none => ordinary
        | _, _ => ordinary

/-- A set from behind its opening bracket, and what follows it. -/
def takeSet? (glyphs : List Glyph) : Option (PatternItem × List Glyph) :=
  match glyphs with
  | ⟨'!', false⟩ :: rest =>
    (takeMembers? (glyphs.length + 1) true rest).map fun (members, after) =>
      (.set { negated := true, members }, after)
  | _ =>
    (takeMembers? (glyphs.length + 1) true glyphs).map fun (members, after) =>
      (.set { negated := false, members }, after)

def patternItems (fuel : Nat) (glyphs : List Glyph) : List PatternItem :=
  match fuel with
  | 0 => []
  | fuel + 1 =>
    match glyphs with
    | [] => []
    | ⟨c, true⟩ :: rest => .one c :: patternItems fuel rest
    | ⟨'*', _⟩ :: rest => .many :: patternItems fuel rest
    | ⟨'?', _⟩ :: rest => .any :: patternItems fuel rest
    | ⟨'[', _⟩ :: rest =>
      match takeSet? rest with
      | some (item, after) => item :: patternItems fuel after
      | none => .one '[' :: patternItems fuel rest
    | ⟨'\\', _⟩ :: next :: rest => .one next.char :: patternItems fuel rest
    | ⟨c, _⟩ :: rest => .one c :: patternItems fuel rest

def PatternItem.holds (item : PatternItem) (c : Char) : Bool :=
  match item with
  | .one char => char = c
  | .any => true
  | .many => false
  | .set listed => listed.holds c

/-- Whether items match a text as a whole. -/
def matchesItems : List PatternItem → ByteText → Bool
  | [], text => text.isEmpty
  | .many :: items, [] => matchesItems items []
  | .many :: items, c :: rest =>
    matchesItems items (c :: rest) || matchesItems (.many :: items) rest
  | _ :: _, [] => false
  | item :: items, c :: rest => item.holds c && matchesItems items rest
termination_by items text => items.length + text.length

structure Pattern where
  items : List PatternItem

namespace Pattern

def ofGlyphs (glyphs : List Glyph) : Pattern :=
  { items := patternItems (glyphs.length + 1) glyphs }

def admits (pattern : Pattern) (text : ByteText) : Bool :=
  matchesItems pattern.items text

/-- The text without a start that the pattern matches, the shortest or the longest. -/
def dropStart (pattern : Pattern) (longest : Bool) (text : ByteText) : ByteText :=
  let counts := List.range (text.length + 1)
  let counts := if longest then counts.reverse else counts
  match counts.find? fun count => pattern.admits (text.take count) with
  | some count => text.drop count
  | none => text

/-- The text without an end that the pattern matches, the shortest or the longest. -/
def dropEnd (pattern : Pattern) (longest : Bool) (text : ByteText) : ByteText :=
  let counts := List.range (text.length + 1)
  let counts := if longest then counts else counts.reverse
  match counts.find? fun count => pattern.admits (text.drop count) with
  | some count => text.take count
  | none => text

end Pattern

/-- Whether glyphs have a character that makes them a pattern. -/
def isPattern (glyphs : List Glyph) : Bool :=
  glyphs.any fun glyph => !glyph.quoted && "*?[".toList.contains glyph.char

end Stencil.Shell
