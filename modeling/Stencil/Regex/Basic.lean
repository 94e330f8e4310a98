import Stencil.Regex.CharacterSet
import Std.Data.HashSet.Basic

/-! # Regular expressions

A regular expression matches parts of a text. Where it matches in more than one way, the
match that begins first counts, and of those the longest one; a group that may be matched in
several ways takes as much as it can.

All ways to match from a place are followed at once. Each way is the place it comes to with
what its groups matched, and of the ways that come to one place only the first is kept,
unless a later part of the expression refers to a group.
-/

namespace Stencil

inductive Regex where
  | empty
  | char (c : Char)
  /-- Any character. -/
  | any
  | set (listed : CharacterSet)
  | textStart
  | textEnd
  /-- The start or the end of a word, or either of them. -/
  | wordStart
  | wordEnd
  | wordEdge
  | notWordEdge
  | sequence (first second : Regex)
  | alternative (first second : Regex)
  | repeated (inner : Regex) (least : Nat) (most : Option Nat)
  | group (number : Nat) (inner : Regex)
  /-- The text that a group matched. -/
  | reference (number : Nat)
  deriving Repr, DecidableEq

namespace Regex

/-- What groups matched, by their numbers; later matches come first. -/
abbrev Captures := List (Nat × Nat × Nat)

/-- A place in the text that a way to match comes to. -/
structure Way where
  place : Nat
  captures : Captures

/-- How text is looked at. -/
structure View where
  text : Array Char
  ignoresCase : Bool := false
  /-- Whether a text start and a text end are matched at the ends of the text. -/
  startsHere : Bool := true

def lower (c : Char) : Char :=
  if 'A' ≤ c && c ≤ 'Z' then Char.ofNat (c.toNat + 32) else c

def upper (c : Char) : Char :=
  if 'a' ≤ c && c ≤ 'z' then Char.ofNat (c.toNat - 32) else c

def isWordChar (c : Char) : Bool :=
  ('a' ≤ c && c ≤ 'z') || ('A' ≤ c && c ≤ 'Z') || ('0' ≤ c && c ≤ '9') || c == '_'

def holdsOne? (ignoresCase : Bool) : Regex → Option (Char → Bool)
  | .char c => some fun d => if ignoresCase then lower c = lower d else c = d
  | .any => some fun _ => true
  | .set listed => some fun d =>
      if ignoresCase then
        if listed.negated then listed.holds (lower d) && listed.holds (upper d)
        else listed.holds (lower d) || listed.holds (upper d)
      else listed.holds d
  | _ => none

def refers : Regex → Bool
  | .reference _ => true
  | .sequence first second | .alternative first second => first.refers || second.refers
  | .repeated inner _ _ | .group _ inner => inner.refers
  | _ => false

/-- Ways without those that come to a place where an earlier one has come. -/
def distinct (ways : List Way) : List Way :=
  match ways with
  | [] | [_] => ways
  | _ =>
    let step (state : List Way × Std.HashSet Nat) (way : Way) :=
      if state.2.contains way.place then state
      else (way :: state.1, state.2.insert way.place)
    (ways.foldl step ([], {})).1.reverse

/-- Ways with the ones that come farther first. -/
def fartherFirst (ways : List Way) : List Way :=
  ways.mergeSort fun one other => other.place ≤ one.place

/-- How many characters from a place on are of one kind, up to a bound. -/
def runLength (text : Array Char) (holds : Char → Bool) (fuel place : Nat) : Nat :=
  match fuel with
  | 0 => 0
  | fuel + 1 =>
    match text[place]? with
    | some c => if holds c then runLength text holds fuel (place + 1) + 1 else 0
    | none => 0

/-- The ways after one more round and all further ones, given the ways of a round that have
    come on. -/
def furtherRounds (next : Way → List Way) (prune : List Way → List Way) :
    (rounds : Nat) → (ways : List Way) → List Way
  | 0, ways => ways
  | rounds + 1, ways =>
    let came := prune (ways.flatMap fun way => (next way).filter fun other => way.place < other.place)
    if came.isEmpty then ways else furtherRounds next prune rounds came ++ ways

/-- The ways after a number of rounds, which need not come on. -/
def roundsOf (next : Way → List Way) (prune : List Way → List Way) :
    (rounds : Nat) → (ways : List Way) → List Way
  | 0, ways => ways
  | rounds + 1, ways => roundsOf next prune rounds (prune (ways.flatMap next))

def wordBefore (view : View) (place : Nat) : Bool :=
  place ≠ 0 && (view.text[place - 1]?).any isWordChar

def wordAt (view : View) (place : Nat) : Bool :=
  (view.text[place]?).any isWordChar

/-- The way itself if something holds, else none. -/
def stay (holds : Bool) (way : Way) : List Way :=
  if holds then [way] else []

/-- All ways to match an expression from a place; those that count more come first. -/
def ways (view : View) (prune : List Way → List Way) : Regex → Way → List Way
  | .empty, way => [way]
  | .char c, way =>
    match view.text[way.place]? with
    | some d =>
      stay (if view.ignoresCase then lower c = lower d else c = d)
        { way with place := way.place + 1 }
    | none => []
  | .any, way => stay (way.place < view.text.size) { way with place := way.place + 1 }
  | .set listed, way =>
    match view.text[way.place]?, holdsOne? view.ignoresCase (.set listed) with
    | some d, some holds => stay (holds d) { way with place := way.place + 1 }
    | _, _ => []
  | .textStart, way => stay (way.place = 0 && view.startsHere) way
  | .textEnd, way => stay (way.place = view.text.size) way
  | .wordStart, way => stay (!wordBefore view way.place && wordAt view way.place) way
  | .wordEnd, way => stay (wordBefore view way.place && !wordAt view way.place) way
  | .wordEdge, way => stay (wordBefore view way.place != wordAt view way.place) way
  | .notWordEdge, way => stay (wordBefore view way.place == wordAt view way.place) way
  | .sequence first second, way =>
    prune ((ways view prune first way).flatMap (ways view prune second))
  | .alternative first second, way =>
    prune (fartherFirst (ways view prune first way ++ ways view prune second way))
  | .repeated inner least most, way =>
    match holdsOne? view.ignoresCase inner with
    | some holds =>
      let bound := most.getD (view.text.size - way.place)
      let length := runLength view.text holds bound way.place
      if length < least then []
      else
        (List.range (length + 1 - least)).map fun i =>
          { way with place := way.place + (length - i) }
    | none =>
      let begun := roundsOf (ways view prune inner) prune least [way]
      let rounds := match most with
        | some most => most - least
        | none => view.text.size + 1
      prune (fartherFirst (furtherRounds (ways view prune inner) prune rounds begun))
  | .group number inner, way =>
    (ways view prune inner way).map fun came =>
      { came with captures := (number, way.place, came.place) :: came.captures }
  | .reference number, way =>
    match way.captures.lookup number with
    | none => []
    | some (first, last) =>
      let length := last - first
      let same := (List.range length).all fun i =>
        match view.text[first + i]?, view.text[way.place + i]? with
        | some c, some d => if view.ignoresCase then lower c = lower d else c = d
        | _, _ => false
      stay same { way with place := way.place + length }

/-- A character that every match begins with, if there is one. -/
def firstChar? : Regex → Option Char
  | .char c => some c
  | .sequence .empty second => second.firstChar?
  | .sequence first _ => first.firstChar?
  | .group _ inner => inner.firstChar?
  | .repeated inner least _ => if least = 0 then none else inner.firstChar?
  | _ => none

/-- A match: where it begins and ends, and what its groups matched. -/
structure Match where
  first : Nat
  last : Nat
  captures : Captures

/-- The text that a group matched; the number zero is for all of the match. -/
def Match.group? (found : Match) (text : Array Char) (number : Nat) : Option (List Char) :=
  if number = 0 then some (text.extract found.first found.last).toList
  else (found.captures.lookup number).map fun (first, last) => (text.extract first last).toList

def matchAt? (regex : Regex) (view : View) (place : Nat) : Option Match :=
  let prune := if regex.refers then id else distinct
  match fartherFirst (ways view prune regex { place, captures := [] }) with
  | [] => none
  | way :: _ => some { first := place, last := way.place, captures := way.captures }

/-- The first match that begins at one of a number of places. -/
def searchFrom (regex : Regex) (view : View) (begins : Char → Bool) (places place : Nat) :
    Option Match :=
  match places with
  | 0 => none
  | places + 1 =>
    let mayBegin := match view.text[place]? with
      | some c => begins c
      | none => true
    match if mayBegin then regex.matchAt? view place else none with
    | some found => some found
    | none => searchFrom regex view begins places (place + 1)

/-- The first match that begins at a place or behind it. -/
def search? (regex : Regex) (view : View) (place : Nat) : Option Match :=
  let begins : Char → Bool := match regex.firstChar? with
    | some c => if view.ignoresCase then fun d => lower c = lower d else fun d => c = d
    | none => fun _ => true
  searchFrom regex view begins (view.text.size + 1 - place) place

def occursIn (regex : Regex) (ignoresCase : Bool) (text : List Char) : Bool :=
  (regex.search? { text := text.toArray, ignoresCase } 0).isSome

/-- The matches from a place on that do not overlap. An empty match next to the one before
    it does not count. -/
def matchesFrom (regex : Regex) (view : View) (fuel place : Nat) (lastEnd : Option Nat) :
    List Match :=
  match fuel with
  | 0 => []
  | fuel + 1 =>
    match regex.search? view place with
    | none => []
    | some found =>
      if found.last = found.first then
        if lastEnd = some found.first then
          if found.first < view.text.size then
            -- The next match may begin behind this place only.
            matchesFrom regex view fuel (found.first + 1) none
          else []
        else if found.last < view.text.size then
          found :: matchesFrom regex view fuel (found.last + 1) none
        else [found]
      else found :: matchesFrom regex view fuel found.last (some found.last)

def allMatches (regex : Regex) (view : View) : List Match :=
  matchesFrom regex view (2 * view.text.size + 2) 0 none

end Regex

end Stencil
