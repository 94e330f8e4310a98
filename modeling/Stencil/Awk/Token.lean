import Stencil.Awk.Basic
import Stencil.Utility.Output

/-! # Tokens of programs for records

A slash begins an expression where an operand may stand, and divides elsewhere; the token
before tells which.
-/

namespace Stencil.Awk

open Shell (ByteText)

def floatOf (value : Binary64) : Float :=
  let magnitude := (Float.ofNat value.mantissa).scaleB value.exponent
  if value.negative then -magnitude else magnitude

/-- The number at the start of a text, and what follows it. -/
def takeFloat? (text : ByteText) : Option (Float × ByteText) :=
  (Real64.take? text).map fun (value, rest) =>
    match value with
    | .finite value => (floatOf value, rest)
    | .infinite negative => (if negative then -1.0 / 0.0 else 1.0 / 0.0, rest)
    | .notANumber _ => (0.0 / 0.0, rest)

/-- The operators and brackets, longer ones first. -/
def marks : List String :=
  ["**=", "&&", "||", "++", "--", "+=", "-=", "*=", "/=", "%=", "^=", "**", "==", "<=", ">=", "!=",
   ">>", "\x7b", "\x7d", "(", ")", "[", "]", ";", ",", "+", "-", "*", "/", "%", "^", "!", ">", "<",
   "|", "?", ":", "~", "$", "="]

/-- Whether an operand ends with the token, so that a slash behind it divides. -/
def Token.endsOperand (token : Token) : Bool :=
  match token with
  | .number _ | .text _ | .regex _ | .name _ | .builtin _ => true
  | .mark sign => [")", "]", "$", "++", "--"].contains sign
  | _ => false

/-- A text up to its closing quotation mark, with its escapes replaced, and what follows. -/
def takeText? (fuel : Nat) (text : ByteText) : Option (ByteText × ByteText) :=
  match fuel with
  | 0 => none
  | fuel + 1 =>
    match text with
    | [] | '\n' :: _ => none
    | '\x22' :: rest => some ([], rest)
    | '\\' :: '\x22' :: rest => (takeText? fuel rest).map fun (t, after) => ('\x22' :: t, after)
    | '\\' :: '/' :: rest => (takeText? fuel rest).map fun (t, after) => ('/' :: t, after)
    | '\\' :: '\n' :: rest => takeText? fuel rest
    | '\\' :: rest =>
      let (c, rest) := Utility.takeEscape rest
      (takeText? fuel rest).map fun (t, after) => (c :: t, after)
    | c :: rest => (takeText? fuel rest).map fun (t, after) => (c :: t, after)

/-- An expression up to its closing slash, and what follows. -/
def takeRegex? : (text : ByteText) → Option (ByteText × ByteText)
  | [] | '\n' :: _ => none
  | '/' :: rest => some ([], rest)
  | '\\' :: '/' :: rest => (takeRegex? rest).map fun (t, after) => ('/' :: t, after)
  | '\\' :: '\x22' :: rest => (takeRegex? rest).map fun (t, after) => ('\x22' :: t, after)
  | '\\' :: c :: rest => (takeRegex? rest).map fun (t, after) => ('\\' :: c :: t, after)
  | c :: rest => (takeRegex? rest).map fun (t, after) => (c :: t, after)

/-- The token of a word, in front of the given text. -/
def wordToken (word : ByteText) (rest : ByteText) : Token :=
  let name := String.ofList word
  if keywords.contains name then .keyword name
  else if builtins.contains name then .builtin name
  else if rest.head? = some '(' then .functionName name
  else .name name

def tokens (fuel line : Nat) (before : Token) (text : ByteText) :
    Except String (List (Nat × Token)) :=
  match fuel with
  | 0 => .ok [(line, .ending)]
  | fuel + 1 =>
    let add (token : Token) (rest : ByteText) : Except String (List (Nat × Token)) := do
      return (line, token) :: (← tokens fuel line token rest)
    match text with
    | [] => .ok [(line, .ending)]
    | '\n' :: rest => do return (line, .newline) :: (← tokens fuel (line + 1) .newline rest)
    | '\\' :: '\n' :: rest => tokens fuel (line + 1) before rest
    | '#' :: rest => tokens fuel line before (rest.dropWhile (· != '\n'))
    | '\x22' :: rest =>
      match takeText? (rest.length + 1) rest with
      | some (text, rest) => add (.text text) rest
      | none => .error ("line " ++ toString line ++ ": runaway string constant \x22" ++
          String.ofList (rest.take 10) ++ " ...")
    | c :: rest =>
      if ByteText.isGap c || c = '\r' then tokens fuel line before rest
      else if c = '/' && !before.endsOperand then
        match takeRegex? rest with
        | some (text, rest) => add (.regex text) rest
        | none => .error ("line " ++ toString line ++ ": runaway regular expression /" ++
            String.ofList (rest.take 10) ++ " ...")
      else if c.isDigit || (c = '.' && (rest.head?.any Char.isDigit)) then
        match takeFloat? text with
        | some (value, rest) => add (.number value) rest
        | none => tokens fuel line before rest
      else if c.isAlpha || c = '_' then
        let word := text.takeWhile fun c => c.isAlphanum || c == '_'
        let rest := text.drop word.length
        add (wordToken word rest) rest
      else
        match marks.find? fun mark => mark.toList.isPrefixOf text with
        | some mark => add (.mark mark) (text.drop mark.length)
        | none => .error (toString line ++ ": unexpected character '" ++ String.ofList [c] ++ "'")

end Stencil.Awk
