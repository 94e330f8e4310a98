import Stencil.Shell.Arithmetic
import Stencil.Shell.Pattern
import Stencil.Shell.Process

/-! # Expansion

A word expands to fields. The values of its parts are put in, then the result is split where
unquoted values have separators, and then a field that is a pattern is replaced by the paths
of the files that it matches.
-/

namespace Stencil.Shell

/-- A piece of what a word expands to. -/
inductive Piece where
  /-- A character; it may separate fields if it `splits`. -/
  | glyph (glyph : Glyph) (splits : Bool)
  /-- Quotes, which make a field even if there is nothing in them. -/
  | mark
  /-- The end of a field. -/
  | fieldEnd
  deriving Repr, DecidableEq

/-- How a part of a word is expanded. -/
structure Manner where
  /-- Whether the part is in quotes. -/
  quoted : Bool := false
  /-- Whether plain text may be split, too. -/
  splits : Bool := false
  /-- Whether there are fields at all, or just one text. -/
  hasFields : Bool

/-- The value of a parameter. -/
inductive ParameterValue where
  | missing
  | single (text : ByteText)
  /-- All arguments, which are joined in quotes if `joined`. -/
  | all (arguments : List ByteText) (joined : Bool)

namespace Expansion

def separators : Action ByteText := do
  return (← Action.valueOf? "IFS".toList).getD " \t\n".toList

/-- Pieces for characters that nothing special is done with. -/
def plainPieces (quoted splits : Bool) (text : ByteText) : List Piece :=
  text.map fun c => .glyph ⟨c, quoted⟩ splits

def valuePieces (manner : Manner) (text : ByteText) : List Piece :=
  plainPieces manner.quoted (!manner.quoted) text

def textOf (pieces : List Piece) : ByteText :=
  pieces.filterMap fun piece =>
    match piece with
    | .glyph glyph _ => some glyph.char
    | .mark | .fieldEnd => none

def glyphsOf (pieces : List Piece) : List Glyph :=
  pieces.filterMap fun piece =>
    match piece with
    | .glyph glyph _ => some glyph
    | .mark | .fieldEnd => none

/-! ## Parameters -/

def parameter (name : ByteText) : Action ParameterValue := do
  let own ← Action.own
  match name with
  | ['@'] => return .all own.arguments false
  | ['*'] => return .all own.arguments true
  | ['#'] => return .single (ByteText.ofNat own.arguments.length)
  | ['?'] => return .single (ByteText.ofNat own.status)
  | ['-'] => return .single own.options
  | ['$'] => return .single (ByteText.ofNat (4096 + own.process))
  | ['!'] =>
    return match own.newest with
      | some process => .single (ByteText.ofNat (4096 + process))
      | none => .missing
  | _ =>
    if name.all Char.isDigit then
      match (Text.decimal? name).getD 0 with
      | 0 => return .single own.name
      | number + 1 => return (own.arguments[number]?).elim .missing .single
    else return ((Action.variableOf? own name).bind Variable.value).elim .missing .single

def joinArguments (arguments : List ByteText) (joined : Bool) : Action ByteText := do
  let separators ← separators
  return Text.join (if joined then separators.take 1 else [' ']) arguments

/-- A value as one text; none if there is no value. -/
def flatten? (value : ParameterValue) : Action (Option ByteText) := do
  match value with
  | .missing => return none
  | .single text => return some text
  | .all arguments joined => return some (← joinArguments arguments joined)

def joinFields : List (List Piece) → List Piece
  | [] => []
  | [last] => last
  | first :: rest => first ++ .fieldEnd :: joinFields rest

def piecesOf (manner : Manner) (value : ParameterValue) : Action (List Piece) := do
  match value with
  | .missing => return []
  | .single text => return valuePieces manner text
  | .all arguments joined =>
    if !manner.hasFields || manner.quoted && joined then
      return valuePieces manner (← joinArguments arguments joined)
    let fields := arguments.map fun argument =>
      if manner.quoted then .mark :: valuePieces manner argument else valuePieces manner argument
    return joinFields fields

/-- A value with each of its texts changed. -/
def mapValue (change : ByteText → ByteText) : ParameterValue → ParameterValue
  | .missing => .missing
  | .single text => .single (change text)
  | .all arguments joined => .all (arguments.map change) joined

/-- Complain of a value that is missing, if that is to be complained of. -/
def demandValue (name : ByteText) (value : ParameterValue) : Action Unit := do
  if let .missing := value then
    if ← Action.hasOption 'u' then
      Action.fail [name, ": parameter not set".toList]

/-! ## Expressions -/

def numberOf (name : ByteText) : Action Int64 := do
  let text := (← Action.valueOf? name).getD []
  if text.all ByteText.isSpace then return 0
  match wholeNumber? takeNumber? text with
  | some value => return Int64.ofInt value
  | none => Action.fail ["Illegal number: ".toList, text]

def arithmetic (text : ByteText) : Action ByteText := do
  let refuse {α : Type} (wording : String) : Action α :=
    Action.fail ["arithmetic expression: ".toList, wording.toList, ": \x22".toList, text, ['\x22']]
  match Expression.read text with
  | .error wording => refuse wording
  | .ok expression =>
    let put (name : ByteText) (value : Int64) : Action Unit :=
      Action.assign name (ByteText.ofInt value.toInt)
    let value ← expression.eval numberOf put (refuse "division by zero")
    return ByteText.ofInt value.toInt

/-! ## Homes -/

/-- The folder that a name behind a tilde stands for. -/
def homeOf? (name : ByteText) : Action (Option ByteText) := do
  if name.isEmpty then Action.valueOf? "HOME".toList
  else return if name = "root".toList then some "/root".toList else none

/-- A text with the folder in the place of a tilde at its start. What ends the name is
    given; the name may end with the text only if that is the end of the word. -/
def expandHome (ends : Char → Bool) (isLast : Bool) (text : ByteText) :
    Action (Option (ByteText × ByteText)) := do
  match text with
  | '~' :: rest =>
    let name := rest.takeWhile fun c => !ends c
    let after := rest.drop name.length
    if after.isEmpty && !isLast then return none
    return (← homeOf? name).map fun home => (home, after)
  | _ => return none

/-- Parts with the folder in the place of a tilde at the start. -/
def expandLeadingHome (parts : List WordPart) : Action (List WordPart) := do
  match parts with
  | .text text :: rest =>
    match ← expandHome (· == '/') rest.isEmpty text with
    | some (home, after) => return .literal home :: .text after :: rest
    | none => return parts
  | _ => return parts

/-- Texts between colons, each with the folder in the place of a tilde at its start. -/
def expandHomesIn (isLast : Bool) : (texts : List ByteText) → Action (List WordPart)
  | [] => return []
  | text :: rest => do
    let expanded ← match ← expandHome (· == '/') (isLast || !rest.isEmpty) text with
      | some (home, after) => pure [.literal home, .text after]
      | none => pure [.text text]
    let others ← expandHomesIn isLast rest
    return expanded ++ (if rest.isEmpty then [] else .text [':'] :: others)

/-- The parts of a value with folders in the place of tildes at its start and behind
    colons. -/
def expandHomes (isFirst : Bool) : (parts : List WordPart) → Action (List WordPart)
  | [] => return []
  | .text text :: rest => do
    let texts := Text.splitAll ':' text
    let expanded ←
      if !text.contains '~' then pure [.text text]
      else if isFirst then expandHomesIn rest.isEmpty texts
      else
        let others ← expandHomesIn rest.isEmpty (texts.drop 1)
        pure (.text (texts.headD []) :: if others.isEmpty then [] else .text [':'] :: others)
    return expanded ++ (← expandHomes false rest)
  | part :: rest => return part :: (← expandHomes false rest)

/-! ## Parts -/

/-- What commands print in the place of a part. -/
def printed (run : Runner) (commands : List Command) : Action ByteText := do
  if commands.isEmpty then
    Action.changeOwn fun own => { own with substituted := 0 }
    return []
  let body : Action Unit := do
    Action.changeOwn fun own => { own with tested := false }
    run commands
  let (text, status) ← Action.collect run body
  Action.changeOwn fun own => { own with substituted := status }
  Action.spend (text.length / 4)
  let text := text.filter (· ≠ '\x00')
  return (text.reverse.dropWhile (· == '\n')).reverse

/-- The result of a parameter's use, given what its word expands to. The pieces of the word
    are asked for only if they are needed. -/
def useParameter (manner : Manner) (name : ByteText) (use : ParameterUse)
    (word : Manner → Action (List Piece)) : Action (List Piece) := do
  let value ← parameter name
  let flat? ← flatten? value
  Action.spend (flat?.elim 0 fun text => text.length / 4)
  let isMissing (colon : Bool) : Bool :=
    match flat? with
    | none => true
    | some text => colon && text.isEmpty
  let inner : Manner := { manner with splits := !manner.quoted }
  match use with
  | .plain =>
    demandValue name value
    piecesOf manner value
  | .length =>
    demandValue name value
    return valuePieces manner (ByteText.ofNat (flat?.getD []).length)
  | .default colon => if isMissing colon then word inner else piecesOf manner value
  | .alternative colon => if isMissing colon then return [] else word inner
  | .assign colon =>
    if isMissing colon then
      let text := textOf (← word { hasFields := false })
      if !isName name then Action.fail [name, ": bad variable name".toList]
      Action.assign name text
      return valuePieces manner text
    else piecesOf manner value
  | .demand colon =>
    if isMissing colon then
      let text := textOf (← word { hasFields := false })
      let wording := if !text.isEmpty then text
        else ("parameter not set" ++ if colon then " or null" else "").toList
      Action.fail [name, ": ".toList, wording]
    else piecesOf manner value
  | .dropStart longest =>
    demandValue name value
    let pattern := Pattern.ofGlyphs (glyphsOf (← word { hasFields := false }))
    piecesOf manner (mapValue (pattern.dropStart longest) value)
  | .dropEnd longest =>
    demandValue name value
    let pattern := Pattern.ofGlyphs (glyphsOf (← word { hasFields := false }))
    piecesOf manner (mapValue (pattern.dropEnd longest) value)
  | .faulty => Action.fail ["Bad substitution".toList]

def isAllArguments : WordPart → Bool
  | .parameter ['@'] _ _ => true
  | _ => false

mutual

def part (run : Runner) (manner : Manner) : WordPart → Action (List Piece)
  | .text text => return plainPieces manner.quoted manner.splits text
  | .literal text => return .mark :: plainPieces true false text
  | .quoted inner => do
    let pieces ← parts run { manner with quoted := true, splits := false } inner
    return if inner.length = 1 && inner.any isAllArguments then pieces else .mark :: pieces
  | .parameter name use word =>
    useParameter manner name use fun manner => parts run manner word
  | .output commands => do return valuePieces manner (← printed run commands)
  | .number expression => do
    let text := textOf (← parts run { quoted := true, hasFields := false } expression)
    return valuePieces manner (← arithmetic text)

def parts (run : Runner) (manner : Manner) : List WordPart → Action (List Piece)
  | [] => return []
  | first :: rest => do
    let pieces ← part run manner first
    return pieces ++ (← parts run manner rest)

end

/-! ## Fields -/

/-- What was met last in the splitting of pieces. -/
inductive Boundary where
  | none
  /-- A blank separator. -/
  | blank
  /-- A separator that is no blank. -/
  | strong
  deriving Repr, DecidableEq

/-- Split pieces into fields. The present field, if there is one, is in reverse, and so are
    the fields that are done. -/
def split (separators : ByteText) (field : Option (List Glyph)) (boundary : Boundary)
    (done : List (List Glyph)) : (pieces : List Piece) → List (List Glyph)
  | [] => (field.elim done fun field => field.reverse :: done).reverse
  | .mark :: rest => split separators (some (field.getD [])) .none done rest
  | .fieldEnd :: rest =>
    split separators none .none (field.elim done fun field => field.reverse :: done) rest
  | .glyph glyph splits :: rest =>
    if splits && separators.contains glyph.char then
      match field, ByteText.isSpace glyph.char with
      | some field, true => split separators none .blank (field.reverse :: done) rest
      | some field, false => split separators none .strong (field.reverse :: done) rest
      | none, true => split separators none boundary done rest
      | none, false =>
        if boundary = .blank then split separators none .strong done rest
        else split separators none .strong ([] :: done) rest
    else split separators (some (glyph :: field.getD [])) .none done rest

/-! ## Paths -/

def components : (glyphs : List Glyph) → List (List Glyph)
  | [] => [[]]
  | glyph :: rest =>
    match components rest with
    | [] => [[glyph]]
    | first :: others =>
      if glyph.char = '/' then [] :: first :: others else (glyph :: first) :: others

/-- The names in a folder that a pattern matches. A dot in front has to be matched by a
    dot. -/
def namesMatching (tree : FileTree) (folder : ByteText) (pattern : List Glyph) :
    List ByteText :=
  let path := if folder.isEmpty then "." else ByteText.toString folder
  match tree.resolve path with
  | .error _ => []
  | .ok place =>
    let names := (tree.namesIn place).map ByteText.ofString
    let startsDot := pattern.head?.any fun glyph => glyph.char = '.'
    let names := if startsDot then ['.'] :: ['.', '.'] :: names else names
    let compiled := Pattern.ofGlyphs pattern
    names.filter fun name => (startsDot || name.head? ≠ some '.') && compiled.admits name

/-- The paths that components match, behind a path that was matched before them. -/
def pathsMatching (tree : FileTree) (before : ByteText) :
    (components : List (List Glyph)) → List ByteText
  | [] => []
  | [last] =>
    if isPattern last then (namesMatching tree before last).map (before ++ ·)
    else
      let path := before ++ glyphText last
      match tree.locate (ByteText.toString path) with
      | .ok place => if (tree.node? place).isSome then [path] else []
      | .error _ => []
  | first :: rest =>
    let names := if isPattern first then namesMatching tree before first else [glyphText first]
    names.flatMap fun name => pathsMatching tree (before ++ name ++ ['/']) rest

/-- The paths that a field matches, in order, or else the field itself. -/
def expandPaths (field : List Glyph) : Action (List ByteText) := do
  if !isPattern field || (← Action.hasOption 'f') then return [glyphText field]
  let paths := pathsMatching (← Action.tree) [] (components field)
  Action.spend 16
  if paths.isEmpty then return [glyphText field]
  return paths.mergeSort ByteText.isAtMost

/-! ## Words -/

/-- The fields that a word expands to. -/
def word (run : Runner) (word : Word) : Action (List ByteText) := do
  let pieces ← parts run { hasFields := true } (← expandLeadingHome word)
  Action.spend (pieces.length / 64)
  let separators ← separators
  let mut fields := []
  for field in split separators none .none [] pieces do
    fields := fields ++ (← expandPaths field)
  return fields

def words (run : Runner) : (words : List Word) → Action (List ByteText)
  | [] => return []
  | first :: rest => do
    let fields ← word run first
    return fields ++ (← words run rest)

def text (run : Runner) (word : Word) : Action ByteText := do
  return textOf (← parts run { hasFields := false } (← expandLeadingHome word))

/-- The value that an assignment gives. -/
def value (run : Runner) (word : Word) : Action ByteText := do
  return textOf (← parts run { hasFields := false } (← expandHomes true word))

def pattern (run : Runner) (word : Word) : Action Pattern := do
  return Pattern.ofGlyphs
    (glyphsOf (← parts run { hasFields := false } (← expandLeadingHome word)))

end Expansion

end Stencil.Shell
