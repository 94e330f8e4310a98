import Stencil.Shell.Script

/-! # A cursor on a script

A script is read from a cursor: the text ahead, with the number of its line. A text that is
no script is faulty; the fault knows its line and its wording.

A command may be followed by documents, which begin on the next line while the present line
goes on. Their lines are taken out of the text ahead as soon as they are announced, so that
they count as lines only once the present line ends.
-/

namespace Stencil.Shell

inductive Operator where
  | newline
  | semicolon
  | doubleSemicolon
  | ampersand
  | conjunction
  | disjunction
  | bar
  | opening
  | closing
  deriving Repr, DecidableEq

inductive Token where
  | ending
  | operator (operator : Operator)
  | word (word : Word)
  | redirection (redirection : Redirection)

/-- The text ahead. -/
structure Cursor where
  rest : ByteText
  line : Nat
  /-- The number of lines that were taken out behind the present one. -/
  taken : Nat
  /-- A token that was read but not used. -/
  kept : Option Token

/-- The line and the wording of a fault. -/
abbrev Fault := Nat × ByteText

abbrev Reading := EStateM Fault Cursor

namespace Reading

def fail {α : Type} (wording : String) : Reading α := do
  throw ((← get).line, wording.toList)

def peek? : Reading (Option Char) := do
  return (← get).rest.head?

/-- Whether the text ahead begins with the given one. -/
def isAhead (text : String) : Reading Bool := do
  return text.toList.isPrefixOf (← get).rest

def advance (cursor : Cursor) : Cursor :=
  match cursor with
  | { rest, line, taken, kept } =>
    match rest with
    | [] => { rest := [], line, taken, kept }
    | '\n' :: rest => { rest, line := line + 1 + taken, taken := 0, kept }
    | _ :: rest => { rest, line, taken, kept }

def skip (count : Nat) : Reading Unit :=
  modify fun cursor => count.repeat advance cursor

def next? : Reading (Option Char) := do
  let c ← peek?
  modify advance
  return c

/-- Pass over the characters of one kind. -/
def takeWhile (holds : Char → Bool) : Reading ByteText := do
  let taken := (← get).rest.takeWhile holds
  skip taken.length
  return taken

/-- Read from another text; the present one is kept as it is. -/
def apart {α : Type} (text : ByteText) (reading : Reading α) : Reading α := do
  let cursor ← get
  set { rest := text, line := cursor.line, taken := 0, kept := none : Cursor }
  let result ← reading
  set cursor
  return result

end Reading

def endsWord (c : Char) : Bool :=
  ByteText.isGap c || c == '\n' || ";&|<>()".toList.contains c

/-- Whether the character may stand in a name. -/
def isNameChar (c : Char) : Bool :=
  c.isAlphanum || c == '_'

def isName (text : ByteText) : Bool :=
  text.all isNameChar && text.head?.any fun c => !c.isDigit

/-- Characters that are names of parameters by themselves. -/
def specialParameters : List Char :=
  "@*#?$!-".toList

/-- Words that are part of the grammar where a command begins. -/
def keywords : List String :=
  ["if", "then", "else", "elif", "fi", "for", "while", "until", "do", "done", "case", "esac",
   "\x7b", "\x7d", "!"]

def Token.keyword? : Token → Option String
  | .word [.text text] =>
    if keywords.contains (String.ofList text) then some (String.ofList text) else none
  | _ => none

def Token.endsList (token : Token) : Bool :=
  match token with
  | .ending | .operator .closing | .operator .doubleSemicolon => true
  | .operator _ | .redirection _ => false
  | .word _ =>
    (token.keyword?).any fun keyword =>
      ["then", "else", "elif", "fi", "do", "done", "esac", "\x7d"].contains keyword

def inQuotes (text : String) : String :=
  "\x22" ++ text ++ "\x22"

/-- What a token is called in faults. -/
def Token.label (token : Token) : String :=
  match token with
  | .ending => "end of file"
  | .redirection _ => "redirection"
  | .word _ =>
    match token.keyword? with
    | some keyword => inQuotes keyword
    | none => "word"
  | .operator .newline => "newline"
  | .operator .semicolon => inQuotes ";"
  | .operator .doubleSemicolon => inQuotes ";;"
  | .operator .ampersand => inQuotes "&"
  | .operator .conjunction => inQuotes "&&"
  | .operator .disjunction => inQuotes "||"
  | .operator .bar => inQuotes "|"
  | .operator .opening => inQuotes "("
  | .operator .closing => inQuotes ")"

namespace Reading

/-- The token is out of place. -/
def unexpected {α : Type} (token : Token) : Reading α :=
  fail ("Syntax error: " ++ token.label ++ " unexpected")

/-- The token stands where another one has to be. -/
def expected {α : Type} (token : Token) (wanted : String) : Reading α :=
  fail ("Syntax error: " ++ token.label ++ " unexpected (expecting " ++ inQuotes wanted ++ ")")

/-- Leave a token to be read again. -/
def keep (token : Token) : Reading Unit :=
  modify fun cursor => { cursor with kept := some token }

end Reading

end Stencil.Shell
