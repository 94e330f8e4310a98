import Stencil.Json.Basic
import Stencil.Number.Shortest
import Stencil.Text.Basic

/-! # Printing JSON

Values are printed without blanks, or with one line per item and two blanks for each level.
Characters are escaped only where the format asks for it.
-/

namespace Stencil

/-- Floating point numbers are written out up to sixteen places before the point and four
    zeros behind it. -/
def JsonNumber.layout : FloatLayout :=
  { mostPlaces := 16, mostZeros := 4 }

def JsonNumber.text : JsonNumber → List Char
  | whole value => (toString value).toList
  | float value => layout.printNumber value

namespace Json

def hexDigit (n : Nat) : Char :=
  Nat.digitChar n

/-- A character as it stands in a string: the quote, the reverse solidus and the control
    characters of ASCII are escaped. -/
def escapeChar (c : Char) : List Char :=
  if c = '\x22' then ['\\', '\x22']
  else if c = '\\' then ['\\', '\\']
  else if c = '\x08' then ['\\', 'b']
  else if c = '\x0c' then ['\\', 'f']
  else if c = '\n' then ['\\', 'n']
  else if c = '\r' then ['\\', 'r']
  else if c = '\t' then ['\\', 't']
  else if c.toNat < 0x20 then
    ['\\', 'u', '0', '0', hexDigit (c.toNat / 16), hexDigit (c.toNat % 16)]
  else [c]

def quoted (text : String) : List Char :=
  '\x22' :: text.toList.flatMap escapeChar ++ ['\x22']

mutual

/-- The text of a value without blanks. -/
def compact : Json → List Char
  | null => "null".toList
  | bool true => "true".toList
  | bool false => "false".toList
  | number value => value.text
  | string value => quoted value
  | array items => '[' :: Text.join [','] (compactItems items) ++ [']']
  | object fields => '\x7b' :: Text.join [','] (compactFields fields) ++ ['\x7d']

def compactItems : List Json → List (List Char)
  | [] => []
  | item :: rest => compact item :: compactItems rest

def compactFields : List (String × Json) → List (List Char)
  | [] => []
  | (key, value) :: rest => (quoted key ++ ':' :: compact value) :: compactFields rest

end

/-- A line end and the blanks of a level. -/
def newLine (level : Nat) : List Char :=
  '\n' :: List.replicate (2 * level) ' '

def bracketed (first last : Char) (level : Nat) : List (List Char) → List Char
  | [] => [first, last]
  | lines =>
    first :: newLine (level + 1) ++ Text.join (',' :: newLine (level + 1)) lines ++
      newLine level ++ [last]

mutual

/-- The text of a value at a level, with one line per item. -/
def indentedAt (level : Nat) : Json → List Char
  | array items => bracketed '[' ']' level (indentedItems (level + 1) items)
  | object fields => bracketed '\x7b' '\x7d' level (indentedFields (level + 1) fields)
  | value => compact value

def indentedItems (level : Nat) : List Json → List (List Char)
  | [] => []
  | item :: rest => indentedAt level item :: indentedItems level rest

def indentedFields (level : Nat) : List (String × Json) → List (List Char)
  | [] => []
  | (key, value) :: rest =>
    (quoted key ++ ':' :: ' ' :: indentedAt level value) :: indentedFields level rest

end

/-- The text of a value with one line per item. -/
def indented (value : Json) : List Char :=
  indentedAt 0 value

end Json

end Stencil
