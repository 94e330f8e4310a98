import Stencil.Regex.Basic
import Stencil.Text.Basic

/-! # Reading regular expressions

There are two ways to write regular expressions. In basic ones groups, bounds and
alternatives are written with reverse solidi; in extended ones without. In both a reverse
solidus takes the meaning from a special character, or names a set.
-/

namespace Stencil.Regex

/-- How an expression is written. -/
inductive Style where
  | basic
  | extended
  deriving Repr, DecidableEq

/-- Why a text is no expression. -/
inductive SyntaxError where
  | unmatchedGroup
  | unmatchedClosing
  | unmatchedBracket
  | unmatchedBrace
  | unknownClass
  | badBound
  | badRange
  | badReference
  | trailingSolidus
  | nothingToRepeat
  deriving Repr, DecidableEq

def SyntaxError.message : SyntaxError → String
  | unmatchedGroup => "Unmatched ( or \\("
  | unmatchedClosing => "Unmatched ) or \\)"
  | unmatchedBracket => "Unmatched [, [^, [:, [., or [="
  | unmatchedBrace => "Unmatched \\\x7b"
  | unknownClass => "Invalid character class name"
  | badBound => "Invalid content of \\\x7b\\\x7d"
  | badRange => "Invalid range end"
  | badReference => "Invalid back reference"
  | trailingSolidus => "Trailing backslash"
  | nothingToRepeat => "Invalid preceding regular expression"

inductive Symbol where
  | atom (regex : Regex)
  | opening
  | closing
  | bar
  | repetition (least : Nat) (most : Option Nat)
  | caret
  | dollar
  deriving Repr

/-- The members of a set from behind its opening; a closing bracket that comes first is a
    member. -/
def takeSetMembers (fuel : Nat) (isFirst : Bool) (text : List Char) :
    Except SyntaxError (List SetMember × List Char) :=
  match fuel with
  | 0 => .error .unmatchedBracket
  | fuel + 1 =>
    match text with
    | [] => .error .unmatchedBracket
    | '[' :: ':' :: rest =>
      let name := rest.takeWhile (· != ':')
      match rest.drop name.length with
      | ':' :: ']' :: after =>
        if (isInClass? (String.ofList name)).isNone then .error .unknownClass
        else do
          let (members, after) ← takeSetMembers fuel false after
          return (.kind (String.ofList name) :: members, after)
      | _ => .error .unmatchedBracket
    | '[' :: '.' :: c :: '.' :: ']' :: rest | '[' :: '=' :: c :: '=' :: ']' :: rest => do
      let (members, after) ← takeSetMembers fuel false rest
      return (.range c c :: members, after)
    | c :: rest =>
      if c = ']' && !isFirst then .ok ([], rest)
      else
        match rest with
        | '-' :: last :: after =>
          if last = ']' then do
            let (members, after) ← takeSetMembers fuel false rest
            return (.range c c :: members, after)
          else if last < c then .error .badRange
          else do
            let (members, after) ← takeSetMembers fuel false after
            return (.range c last :: members, after)
        | _ => do
          let (members, after) ← takeSetMembers fuel false rest
          return (.range c c :: members, after)

/-- A set from behind its opening bracket. -/
def takeSet (text : List Char) : Except SyntaxError (Symbol × List Char) :=
  let (negated, inner) := match text with
    | '^' :: rest => (true, rest)
    | _ => (false, text)
  (takeSetMembers (text.length + 1) true inner).map fun (members, after) =>
    (.atom (.set { negated, members }), after)

/-- The set of the characters of words, or of all others. -/
def wordSet (negated : Bool) : Regex :=
  .set { negated, members := [.kind "alnum", .range '_' '_'] }

/-- The set of white space, or of all else. -/
def spaceSet (negated : Bool) : Regex :=
  .set { negated, members := [.kind "space"] }

/-- What a letter behind a reverse solidus means in both styles. -/
def escapeMeaning? (c : Char) : Option Regex :=
  match c with
  | 'w' => some (wordSet false)
  | 'W' => some (wordSet true)
  | 's' => some (spaceSet false)
  | 'S' => some (spaceSet true)
  | '<' => some .wordStart
  | '>' => some .wordEnd
  | 'b' => some .wordEdge
  | 'B' => some .notWordEdge
  | '\x60' => some .textStart
  | '\x27' => some .textEnd
  | 'n' => some (.char '\n')
  | 't' => some (.char '\t')
  | 'f' => some (.char '\x0c')
  | 'v' => some (.char '\x0b')
  | 'a' => some (.char '\x07')
  | 'r' => some (.char '\r')
  | _ => if '1' ≤ c && c ≤ '9' then some (.reference (c.toNat - '0'.toNat)) else none

def takeBounds? (closing : List Char) (text : List Char) : Option (Symbol × List Char) :=
  let number (digits : List Char) := Text.decimal? digits
  let first := text.takeWhile Char.isDigit
  let rest := text.drop first.length
  match closing.isPrefixOf? rest with
  | some after => (number first).map fun least => (.repetition least (some least), after)
  | none =>
    match rest with
    | ',' :: rest =>
      let second := rest.takeWhile Char.isDigit
      (closing.isPrefixOf? (rest.drop second.length)).bind fun after =>
        let least := (number first).getD 0
        if second.isEmpty then some (.repetition least none, after)
        else
          (number second).bind fun most =>
            if least ≤ most then some (.repetition least (some most), after) else none
    | _ => none

def takeSymbol (style : Style) (c : Char) (rest : List Char) :
    Except SyntaxError (Symbol × List Char) :=
  let isExtended := style == .extended
  let repetition (least : Nat) (most : Option Nat) (rest : List Char) :
      Except SyntaxError (Symbol × List Char) :=
    .ok (.repetition least most, rest)
  match c with
  | '.' => .ok (.atom .any, rest)
  | '[' => takeSet rest
  | '*' => repetition 0 none rest
  | '^' => .ok (.caret, rest)
  | '$' => .ok (.dollar, rest)
  | '\\' =>
    match rest with
    | [] => .error .trailingSolidus
    | e :: after =>
      match isExtended, e with
      | false, '(' => .ok (.opening, after)
      | false, ')' => .ok (.closing, after)
      | false, '|' => .ok (.bar, after)
      | false, '+' => repetition 1 none after
      | false, '?' => repetition 0 (some 1) after
      | false, '\x7b' =>
        match takeBounds? ['\\', '\x7d'] after with
        | some found => .ok found
        | none =>
          if after.contains '\x7d' then .error .badBound else .error .unmatchedBrace
      | _, _ =>
        match escapeMeaning? e with
        | some regex => .ok (.atom regex, after)
        | none => .ok (.atom (.char e), after)
  | _ =>
    match isExtended, c with
    | true, '(' => .ok (.opening, rest)
    | true, ')' => .ok (.closing, rest)
    | true, '|' => .ok (.bar, rest)
    | true, '+' => repetition 1 none rest
    | true, '?' => repetition 0 (some 1) rest
    | true, '\x7b' =>
      match takeBounds? ['\x7d'] rest with
      | some found => .ok found
      | none => .ok (.atom (.char c), rest)
    | _, _ => .ok (.atom (.char c), rest)

def symbols (style : Style) (fuel : Nat) (text : List Char) : Except SyntaxError (List Symbol) :=
  match fuel, text with
  | 0, _ | _, [] => .ok []
  | fuel + 1, c :: rest => do
    let (symbol, after) ← takeSymbol style c rest
    return symbol :: (← symbols style fuel after)

/-- What is read of an expression: its tokens ahead, and how many groups were opened and
    closed. -/
structure Progress where
  ahead : List Symbol
  opened : Nat := 0
  closed : List Nat := []

/-- The repetitions behind an expression. -/
def takeRepetitions (fuel : Nat) (regex : Regex) (progress : Progress) : Regex × Progress :=
  match fuel with
  | 0 => (regex, progress)
  | fuel + 1 =>
    match progress.ahead with
    | .repetition least most :: rest =>
      takeRepetitions fuel (.repeated regex least most) { progress with ahead := rest }
    | _ => (regex, progress)

/-- Whether a dollar sign before the given tokens is at the end of an expression. -/
def endsHere (ahead : List Symbol) : Bool :=
  match ahead with
  | [] | .closing :: _ | .bar :: _ => true
  | _ => false

/-- The text of a repetition that stands where nothing can be repeated. -/
def plainRepetition (least : Nat) (most : Option Nat) : Regex :=
  match least, most with
  | 0, some 1 => .char '?'
  | 1, none => .char '+'
  | _, _ => .char '*'

mutual

/-- Alternatives up to a closing parenthesis or the end. -/
def takeAlternatives (style : Style) (fuel : Nat) (progress : Progress) :
    Except SyntaxError (Regex × Progress) :=
  match fuel with
  | 0 => .error .unmatchedGroup
  | fuel + 1 => do
    let (first, progress) ← takeSequence style fuel true progress
    match progress.ahead with
    | .bar :: rest =>
      let (second, progress) ← takeAlternatives style fuel { progress with ahead := rest }
      return (.alternative first second, progress)
    | _ => return (first, progress)

/-- A sequence up to a bar, a closing parenthesis or the end. -/
def takeSequence (style : Style) (fuel : Nat) (isFirst : Bool) (progress : Progress) :
    Except SyntaxError (Regex × Progress) :=
  match fuel with
  | 0 => .error .unmatchedGroup
  | fuel + 1 =>
    match progress.ahead with
    | [] | .bar :: _ => .ok (.empty, progress)
    | .closing :: _ => .ok (.empty, progress)
    | symbol :: rest => do
      let progress := { progress with ahead := rest }
      let isAnchor := match symbol with
        | .caret => style = .extended || isFirst
        | _ => false
      let (regex, progress) ← match symbol with
        | .atom (.reference number) =>
          if progress.closed.contains number then pure (.reference number, progress)
          else throw .badReference
        | .atom regex => pure (regex, progress)
        | .caret => pure (if isAnchor then .textStart else .char '^', progress)
        | .dollar =>
          pure (if style = .extended || endsHere rest then .textEnd else .char '$', progress)
        | .repetition least most =>
          if style = .basic then pure (plainRepetition least most, progress)
          else pure (.empty, progress)
        | _ =>
          let number := progress.opened + 1
          let (inner, progress) ← takeAlternatives style fuel { progress with opened := number }
          match progress.ahead with
          | .closing :: rest =>
            pure (.group number inner,
              { progress with ahead := rest, closed := number :: progress.closed })
          | _ => throw .unmatchedGroup
      -- An asterisk behind a leading caret stands for itself in the basic style.
      let (regex, progress) :=
        if isAnchor && style = .basic then (regex, progress)
        else takeRepetitions fuel regex progress
      let (next, progress) ← takeSequence style fuel (isAnchor && style = .basic) progress
      return (.sequence regex next, progress)

end

/-- Read an expression with its alternatives; a closing parenthesis without an opening one
    stands for itself in the extended style. -/
def read (style : Style) (text : List Char) : Except SyntaxError Regex := do
  let symbols ← symbols style (text.length + 1) text
  let (regex, progress) ← takeAlternatives style (4 * text.length + 8) { ahead := symbols }
  match progress.ahead with
  | [] => return regex
  | _ => throw .unmatchedClosing

/-- The expression for a text itself. -/
def ofText (text : List Char) : Regex :=
  text.foldr (fun c rest => .sequence (.char c) rest) .empty

end Stencil.Regex
