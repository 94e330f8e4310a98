import Stencil.Yaml.Basic
import Stencil.Yaml.Character

/-! # Tags

A tag says what a node is meant to be. It is written in full between angle brackets, or by a
handle, which a directive of the document stands for, and a suffix. The result is a sequence
of bytes, since percent signs escape single bytes.
-/

namespace Stencil.Yaml

abbrev Tag := List UInt8

namespace Tag

def ofText (text : String) : Tag :=
  text.toUTF8.toList

def null : Tag := ofText "tag:yaml.org,2002:null"

def truth : Tag := ofText "tag:yaml.org,2002:bool"

def int : Tag := ofText "tag:yaml.org,2002:int"

/-- The tag that keeps a node from being told by its spelling. -/
def nonSpecific : Tag := ofText "!"

/-- The bytes before the first zero byte; a zero byte ends a tag. -/
def beforeZero (tag : Tag) : Tag :=
  tag.takeWhile (· != 0)

/-- The name of a local tag, which follows its exclamation mark; `none` for a tag that is not
    local or no text. -/
def localName? : Tag → Option String
  | 0x21 :: name => String.fromUTF8? ⟨name.toArray⟩
  | _ => none

end Tag

/-- Characters of a tag's suffix. Between angle brackets and in directives the separators of
    flow sequences belong to them. -/
def isTagChar (whole : Bool) (c : Char) : Bool :=
  isNameChar c || ";/?:@&=+$.%!~*\x27()".toList.contains c ||
    (whole && (c == ',' || c == '[' || c == ']'))

/-- The byte of a percent sign and two hexadecimal digits at the start of the text. -/
def escapedByte? (text : List Char) : Option Nat :=
  match text with
  | '%' :: high :: low :: _ => numeral? 16 [high, low]
  | _ => none

/-- How many bytes follow a lead byte in its character. -/
def followerCount? (lead : Nat) : Option Nat :=
  if lead < 0x80 then some 0
  else if 0xC0 ≤ lead ∧ lead < 0xE0 then some 1
  else if 0xE0 ≤ lead ∧ lead < 0xF0 then some 2
  else if 0xF0 ≤ lead ∧ lead < 0xF8 then some 3
  else none

/-- The suffix of a tag at the cursor. `due` bytes are still missing from a character that is
    written in escapes. -/
def takeSuffix (fuel : Nat) (whole : Bool) (due : Nat) (taken : Tag) (cursor : Cursor) :
    Option (Tag × Cursor) :=
  match fuel with
  | 0 => none
  | fuel + 1 =>
    match cursor.rest with
    | '%' :: _ => do
      let byte ← escapedByte? cursor.rest
      let due ← if due = 0 then followerCount? byte
        else if 0x80 ≤ byte ∧ byte < 0xC0 then some (due - 1)
        else none
      takeSuffix fuel whole due (byte.toUInt8 :: taken) (cursor.move 3)
    | c :: _ =>
      if due ≠ 0 then none
      else if isTagChar whole c then
        takeSuffix fuel whole 0 ((c.toString.toUTF8.toList).reverse ++ taken) cursor.next
      else some (taken.reverse, cursor)
    | [] => if due = 0 then some (taken.reverse, cursor) else none

/-- The suffix of a tag at the cursor, which is not empty. -/
def takeSuffix? (whole : Bool) (cursor : Cursor) : Option (Tag × Cursor) := do
  let (suffix, behind) ← takeSuffix (cursor.rest.length + 1) whole 0 [] cursor
  if suffix.isEmpty then none else return (suffix, behind)

/-- The handle of a tag at the cursor: an exclamation mark, or a name between two of them; or
    the start of a local tag up to what is no name. -/
def takeHandle? (cursor : Cursor) : Option (List Char × Cursor) :=
  if cursor.head? == some '!' then
    let name := cursor.next.rest.takeWhile isNameChar
    let behind := cursor.move (name.length + 1)
    if behind.head? == some '!' then some ('!' :: name ++ ['!'], behind.next)
    else some ('!' :: name, behind)
  else none

/-- Whether the handle can stand before a suffix: it has two exclamation marks. -/
def isNamedHandle (handle : List Char) : Bool :=
  1 < handle.length && handle.getLast? == some '!'

/-- A tag between angle brackets, which has no handle. -/
def takeWholeTag? (cursor : Cursor) : Option (List Char × Tag × Cursor) := do
  let (suffix, behind) ← takeSuffix? true (cursor.move 2)
  if behind.head? == some '>' then return ([], suffix, behind.next) else none

/-- A tag with a handle. A single exclamation mark is the tag that keeps a node from being
    told by its spelling. -/
def takeShortTag? (cursor : Cursor) : Option (List Char × Tag × Cursor) := do
  let (handle, behind) ← takeHandle? cursor
  if isNamedHandle handle then
    let (suffix, behind) ← takeSuffix? false behind
    return (handle, suffix, behind)
  else
    let (rest, behind) ← takeSuffix (behind.rest.length + 1) false 0 [] behind
    let suffix := Tag.ofText (String.ofList (handle.drop 1)) ++ rest
    if suffix.isEmpty then return ([], Tag.nonSpecific, behind)
    else return (['!'], suffix, behind)

/-- The tag at the cursor as a handle and a suffix. The handle is empty where the suffix is
    all of the tag. -/
def takeTag? (flow : Bool) (cursor : Cursor) : Option (List Char × Tag × Cursor) := do
  let (handle, suffix, behind) ←
    if cursor.next.head? == some '<' then takeWholeTag? cursor else takeShortTag? cursor
  if beginsBlank behind.rest || (flow && behind.head? == some ',') then
    return (handle, suffix, behind)
  else none

/-- The handles that every document knows, and what they stand for. -/
def standardHandles : List (List Char × Tag) :=
  [(['!'], Tag.nonSpecific), (['!', '!'], Tag.ofText "tag:yaml.org,2002:")]

def resolveTag? (handles : List (List Char × Tag)) (handle : List Char) (suffix : Tag) :
    Option Tag :=
  if handle.isEmpty then some suffix.beforeZero
  else (handles.lookup handle).map fun lead => lead.beforeZero ++ suffix.beforeZero

end Stencil.Yaml
