/-! # Sets of characters

Patterns and regular expressions name sets of characters in brackets: characters, ranges of
them, and classes by their names, as a computer without a language knows them.
-/

namespace Stencil

/-- Whether a character is in the class of a name, as in a computer without a language. -/
def isInClass? (name : String) : Option (Char → Bool) :=
  let isUpper (c : Char) := 'A' ≤ c && c ≤ 'Z'
  let isLower (c : Char) := 'a' ≤ c && c ≤ 'z'
  let isDigit (c : Char) := '0' ≤ c && c ≤ '9'
  let isAlnum (c : Char) := isUpper c || isLower c || isDigit c
  let isGraph (c : Char) := '!' ≤ c && c ≤ '~'
  let isGap (c : Char) := c == ' ' || c == '\t'
  let isSpace (c : Char) := c == ' ' || ('\t' ≤ c && c ≤ '\r')
  match name with
  | "alpha" => some fun c => isUpper c || isLower c
  | "digit" => some isDigit
  | "alnum" => some isAlnum
  | "upper" => some isUpper
  | "lower" => some isLower
  | "space" => some isSpace
  | "blank" => some isGap
  | "punct" => some fun c => isGraph c && !isAlnum c
  | "print" => some fun c => isGraph c || c == ' '
  | "graph" => some isGraph
  | "cntrl" => some fun c => c < ' ' || c == '\x7f'
  | "xdigit" => some fun c => isDigit c || ('a' ≤ c && c ≤ 'f') || ('A' ≤ c && c ≤ 'F')
  | _ => none

inductive SetMember where
  | range (first last : Char)
  | kind (name : String)
  deriving Repr, DecidableEq

def SetMember.holds (member : SetMember) (c : Char) : Bool :=
  match member with
  | .range first last => first ≤ c && c ≤ last
  | .kind name => (isInClass? name).any fun isIn => isIn c

structure CharacterSet where
  /-- Whether the characters are those that are not listed. -/
  negated : Bool
  members : List SetMember
  deriving Repr, DecidableEq

def CharacterSet.holds (set : CharacterSet) (c : Char) : Bool :=
  (set.members.any fun member => member.holds c) != set.negated

end Stencil
