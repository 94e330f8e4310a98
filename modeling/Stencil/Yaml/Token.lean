import Stencil.Yaml.Scalar
import Stencil.Yaml.Tag

/-! # Tokens of YAML

A text is cut into indicators, properties and scalars. Block collections have no brackets of
their own: the lexer keeps the columns of the open ones and adds their starts and ends. A
simple key is told only by the colon behind it; so each place where one may begin is
remembered, and the tokens before the key are added when the colon is found.

A simple key lies on one line and has at most 1024 bytes. Where a block mapping goes on with a
token in its own column, that token has to become a key.
-/

namespace Stencil.Yaml

inductive ScalarStyle where
  | plain
  | singleQuoted
  | doubleQuoted
  | literal
  | folded
  deriving Repr, DecidableEq

inductive Token where
  | versionDirective (major minor : Nat)
  | tagDirective (handle : List Char) (lead : Tag)
  | documentStart
  | documentEnd
  | blockSequenceStart
  | blockMappingStart
  | blockEnd
  | flowSequenceStart
  | flowSequenceEnd
  | flowMappingStart
  | flowMappingEnd
  | blockEntry
  | flowEntry
  | key
  | value
  | alias (name : List Char)
  | anchor (name : List Char)
  | tag (handle : List Char) (suffix : Tag)
  | scalar (style : ScalarStyle) (text : List Char)
  deriving Repr, DecidableEq

/-- A place where a simple key may begin. -/
structure PossibleKey where
  /-- How many tokens precede the key. -/
  index : Nat
  place : Cursor
  /-- Whether the block mapping cannot go on without a key here. -/
  required : Bool
  deriving Repr

namespace PossibleKey

def greatestSize : Nat := 1024

/-- Whether a colon at the cursor makes it a key. -/
def reaches (possible : PossibleKey) (cursor : Cursor) : Bool :=
  possible.place.line == cursor.line && cursor.offset ≤ possible.place.offset + greatestSize

end PossibleKey

/-- The state of cutting a text into tokens. -/
structure Lexer where
  cursor : Cursor
  /-- A number greater than the length of the text, which bounds each loop over it. -/
  fuel : Nat
  tokens : Array Token := #[]
  /-- The column left of which the innermost block collection ends, counted from one; zero
      outside of all of them. -/
  least : Nat := 0
  /-- The same for the collections around it, from the inside. -/
  outer : List Nat := []
  /-- Whether a simple key may begin at the next token. -/
  keyAllowed : Bool := true
  /-- The possible key outside of flow collections. -/
  blockKey : Option PossibleKey := none
  /-- The possible key in each open flow collection, from the inside. -/
  flowKeys : List (Option PossibleKey) := []

namespace Lexer

def inFlow (lexer : Lexer) : Bool :=
  !lexer.flowKeys.isEmpty

/-- The lexer with a further token, behind the text of that token. -/
def emitAt (lexer : Lexer) (token : Token) (behind : Cursor) : Lexer :=
  { lexer with tokens := lexer.tokens.push token, cursor := behind }

def possibleKey (lexer : Lexer) : Option PossibleKey :=
  match lexer.flowKeys with
  | key :: _ => key
  | [] => lexer.blockKey

def setKey (lexer : Lexer) (key : Option PossibleKey) : Lexer :=
  match lexer.flowKeys with
  | _ :: rest => { lexer with flowKeys := key :: rest }
  | [] => { lexer with blockKey := key }

/-- The lexer without a possible key in the innermost collection; `none` if one is required
    there. -/
def dropKey? (lexer : Lexer) : Option Lexer :=
  if lexer.possibleKey.any PossibleKey.required then none else some (lexer.setKey none)

/-- The lexer with a possible key at the cursor, if one may begin there. -/
def saveKey? (lexer : Lexer) : Option Lexer :=
  if lexer.keyAllowed then
    lexer.dropKey?.map fun dropped => dropped.setKey (some {
      index := lexer.tokens.size
      place := lexer.cursor
      required := !lexer.inFlow && lexer.least == lexer.cursor.column + 1 })
  else some lexer

/-- The lexer without a block key that is out of reach; `none` if that one is required. -/
def dropStale? (lexer : Lexer) : Option Lexer :=
  match lexer.blockKey with
  | some key =>
    if key.reaches lexer.cursor then some lexer
    else if key.required then none
    else some { lexer with blockKey := none }
  | none => some lexer

/-- End the block collections that stand right of a column. -/
def closeBlocks (lexer : Lexer) (column : Nat) : Lexer :=
  if lexer.inFlow then lexer else close lexer.outer lexer.least lexer.tokens
where
  /-- End collections from the inside. -/
  close (outer : List Nat) (least : Nat) (tokens : Array Token) : Lexer :=
    if column + 1 < least then
      match outer with
      | [] => { lexer with outer := [], least := 0, tokens := tokens.push .blockEnd }
      | next :: outer => close outer next (tokens.push .blockEnd)
    else { lexer with outer, least, tokens }

def closeAllBlocks (lexer : Lexer) : Lexer :=
  if lexer.inFlow then lexer
  else
    let count := lexer.outer.length
    { lexer with
      outer := [], least := 0
      tokens := lexer.tokens ++ (List.replicate count Token.blockEnd).toArray }

/-- Begin a block collection at a column, before the token of the given index, unless one
    stands there already. -/
def openBlock (lexer : Lexer) (column index : Nat) (start : Token) : Lexer :=
  if lexer.inFlow || column < lexer.least then lexer
  else
    { lexer with
      outer := lexer.least :: lexer.outer
      least := column + 1
      tokens := lexer.tokens.insertIdxIfInBounds index start }

/-- Skip blanks, comments and line ends. A tab may stand between tokens, but not before a
    token that may be a simple key. A byte order mark may begin a line. -/
def skipBlanks (fuel : Nat) (lexer : Lexer) : Lexer :=
  match fuel with
  | 0 => lexer
  | fuel + 1 =>
    let start := lexer.cursor
    let start := if start.column == 0 && start.head? == some '\ufeff' then start.next else start
    let tabs := lexer.inFlow || !lexer.keyAllowed
    let start := start.skipWhile fun c => c == ' ' || (tabs && c == '\t')
    let start := if start.head? == some '#' then start.toLineEnd else start
    match start.takeBreak? with
    | some (_, below) =>
      skipBlanks fuel { lexer with
        cursor := below, keyAllowed := lexer.keyAllowed || !lexer.inFlow }
    | none => { lexer with cursor := start }

/-- The number of a version: one to nine digits. -/
def takeVersionNumber? (cursor : Cursor) : Option (Nat × Cursor) :=
  let digits := cursor.rest.takeWhile Char.isDigit
  if digits.length ≤ 9 then
    (numeral? 10 digits).map fun number => (number, cursor.move digits.length)
  else none

/-- What a directive says of the version, from behind its name. -/
def takeVersion? (cursor : Cursor) : Option (Token × Cursor) := do
  let (major, behind) ← takeVersionNumber? (cursor.skipWhile isGap)
  if behind.head? ≠ some '.' then none
  let (minor, behind) ← takeVersionNumber? behind.next
  return (.versionDirective major minor, behind)

/-- What a directive says of a handle, from behind its name. -/
def takeTagDirective? (cursor : Cursor) : Option (Token × Cursor) := do
  let (handle, behind) ← takeHandle? (cursor.skipWhile isGap)
  if handle ≠ ['!'] && !isNamedHandle handle then none
  if !behind.head?.any isGap then none
  let (lead, behind) ← takeSuffix? true (behind.skipWhile isGap)
  if beginsBlank behind.rest then return (.tagDirective handle lead, behind) else none

def takeDirective? (cursor : Cursor) : Option (Token × Cursor) := do
  let name := cursor.next.rest.takeWhile isNameChar
  let behind := cursor.move (name.length + 1)
  if !beginsBlank behind.rest then none
  let (token, behind) ←
    if name = "YAML".toList then takeVersion? behind
    else if name = "TAG".toList then takeTagDirective? behind
    else none
  let behind := behind.skipWhile isGap
  let lineEnd := if behind.head? == some '#' then behind.toLineEnd else behind
  if endsLine lineEnd.rest then return (token, lineEnd.skipBreak) else none

/-- The name of an anchor from behind its indicator. -/
def takeAnchorName? (cursor : Cursor) : Option (List Char × Cursor) :=
  let name := cursor.rest.takeWhile isNameChar
  let behind := cursor.move name.length
  let ends := beginsBlank behind.rest ||
    behind.head?.any fun c => "?:,]\x7d%@\x60".toList.contains c
  if name.isEmpty || !ends then none else some (name, behind)

/-- A directive, or a mark between documents: all block collections end before it. -/
def takeOutside? (lexer : Lexer) (token : Token) (behind : Cursor) : Option Lexer :=
  lexer.closeAllBlocks.dropKey?.map fun closed =>
    { closed with keyAllowed := false }.emitAt token behind

def takeFlowStart? (lexer : Lexer) (token : Token) : Option Lexer :=
  lexer.saveKey?.map fun saved =>
    { saved with flowKeys := none :: saved.flowKeys, keyAllowed := true }.emitAt token
      saved.cursor.next

def takeFlowEnd? (lexer : Lexer) (token : Token) : Option Lexer :=
  lexer.dropKey?.map fun dropped =>
    { dropped with flowKeys := dropped.flowKeys.drop 1, keyAllowed := false }.emitAt token
      dropped.cursor.next

def takeFlowEntry? (lexer : Lexer) : Option Lexer :=
  lexer.dropKey?.map fun dropped =>
    { dropped with keyAllowed := true }.emitAt .flowEntry dropped.cursor.next

/-- The start of a block collection at the cursor, where one may begin. -/
def openHere? (lexer : Lexer) (start : Token) : Option Lexer :=
  if lexer.inFlow then some lexer
  else if lexer.keyAllowed then
    some (lexer.openBlock lexer.cursor.column lexer.tokens.size start)
  else none

def takeBlockEntry? (lexer : Lexer) : Option Lexer := do
  let opened ← lexer.openHere? .blockSequenceStart
  let dropped ← opened.dropKey?
  return { dropped with keyAllowed := true }.emitAt .blockEntry dropped.cursor.next

def takeKey? (lexer : Lexer) : Option Lexer := do
  let opened ← lexer.openHere? .blockMappingStart
  let dropped ← opened.dropKey?
  return { dropped with keyAllowed := !dropped.inFlow }.emitAt .key dropped.cursor.next

/-- The colon before a value. If a simple key ends here, the tokens before the key are
    added. -/
def takeValue? (lexer : Lexer) : Option Lexer :=
  match lexer.possibleKey.filter (·.reaches lexer.cursor) with
  | some key =>
    let keyed := { lexer with tokens := lexer.tokens.insertIdxIfInBounds key.index .key }
    let opened := keyed.openBlock key.place.column key.index .blockMappingStart
    let keyless := opened.setKey none
    some ({ keyless with keyAllowed := false }.emitAt .value keyless.cursor.next)
  | none =>
    (lexer.openHere? .blockMappingStart).map fun opened =>
      { opened with keyAllowed := !opened.inFlow }.emitAt .value opened.cursor.next

/-- An alias or an anchor. -/
def takeName? (lexer : Lexer) (token : List Char → Token) : Option Lexer := do
  let saved ← lexer.saveKey?
  let (name, behind) ← takeAnchorName? lexer.cursor.next
  return { saved with keyAllowed := false }.emitAt (token name) behind

def takeTagToken? (lexer : Lexer) : Option Lexer := do
  let saved ← lexer.saveKey?
  let (handle, suffix, behind) ← takeTag? lexer.inFlow lexer.cursor
  return { saved with keyAllowed := false }.emitAt (.tag handle suffix) behind

def takeBlockScalar? (lexer : Lexer) (style : ScalarStyle) : Option Lexer := do
  let dropped ← lexer.dropKey?
  let (text, behind) ← takeBlock? lexer.fuel (style == .folded) lexer.least lexer.cursor
  return { dropped with keyAllowed := true }.emitAt (.scalar style text) behind

def takeQuotedScalar? (lexer : Lexer) (style : ScalarStyle) : Option Lexer := do
  let saved ← lexer.saveKey?
  let (text, behind) ← takeQuoted? lexer.fuel (style == .singleQuoted) lexer.cursor
  return { saved with keyAllowed := false }.emitAt (.scalar style text) behind

/-- A plain scalar. A key may follow it on a line of its own. -/
def takePlainScalar? (lexer : Lexer) : Option Lexer := do
  let saved ← lexer.saveKey?
  let (text, broken, behind) ← takePlain? lexer.fuel lexer.inFlow lexer.least lexer.cursor
  return { saved with keyAllowed := broken }.emitAt (.scalar .plain text) behind

def beginsPlain (flow : Bool) (c : Char) (rest : List Char) : Bool :=
  if c == '-' then !rest.head?.any isGap
  else if c == '?' || c == ':' then !flow && !beginsBlank rest
  else !isGapOrBreak c && !isFlowMark c && !"#&*!|>\x27\x22%@\x60".toList.contains c

/-- The next token that the text has, at a character and what follows that. -/
def takeToken? (lexer : Lexer) (c : Char) (rest : List Char) : Option Lexer :=
  let cursor := lexer.cursor
  let alone := beginsBlank rest
  if cursor.column == 0 && c == '%' then
    (takeDirective? cursor).bind fun (token, behind) => lexer.takeOutside? token behind
  else if cursor.atMark '-' then lexer.takeOutside? .documentStart (cursor.move 3)
  else if cursor.atMark '.' then lexer.takeOutside? .documentEnd (cursor.move 3)
  else if c == '[' then lexer.takeFlowStart? .flowSequenceStart
  else if c == '\x7b' then lexer.takeFlowStart? .flowMappingStart
  else if c == ']' then lexer.takeFlowEnd? .flowSequenceEnd
  else if c == '\x7d' then lexer.takeFlowEnd? .flowMappingEnd
  else if c == ',' then lexer.takeFlowEntry?
  else if c == '-' && alone then lexer.takeBlockEntry?
  else if c == '?' && (lexer.inFlow || alone) then lexer.takeKey?
  else if c == ':' && (lexer.inFlow || alone) then lexer.takeValue?
  else if c == '*' then lexer.takeName? .alias
  else if c == '&' then lexer.takeName? .anchor
  else if c == '!' then lexer.takeTagToken?
  else if c == '|' && !lexer.inFlow then lexer.takeBlockScalar? .literal
  else if c == '>' && !lexer.inFlow then lexer.takeBlockScalar? .folded
  else if c == '\x27' then lexer.takeQuotedScalar? .singleQuoted
  else if c == '\x22' then lexer.takeQuotedScalar? .doubleQuoted
  else if beginsPlain lexer.inFlow c rest then lexer.takePlainScalar?
  else none

def run (fuel : Nat) (lexer : Lexer) : Option (Array Token) :=
  match fuel with
  | 0 => none
  | fuel + 1 => do
    let skipped := lexer.skipBlanks lexer.fuel
    let ready ← skipped.dropStale?
    match ready.cursor.rest with
    | [] => ready.closeAllBlocks.dropKey?.map Lexer.tokens
    | c :: rest =>
      let closed := ready.closeBlocks ready.cursor.column
      (closed.takeToken? c rest).bind (run fuel)

end Lexer

namespace Token

/-- The tokens of a text. A byte order mark at its start is passed over. -/
def ofText? (text : List Char) : Option (Array Token) :=
  let source := match text with
    | '\ufeff' :: rest => rest
    | _ => text
  if source.all isAllowed then
    let fuel := source.length + 1
    Lexer.run fuel { cursor := { rest := source }, fuel }
  else none

end Token

end Stencil.Yaml
