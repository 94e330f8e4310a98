import Stencil.Yaml.Token

/-! # Events of YAML

The tokens of a stream are read as documents by a machine with a stack: each stretch of it
says what may come next, and each step tells one event. So the depth of a document is bounded
by nothing but the length of its text.
-/

namespace Stencil.Yaml

/-- What stands before the content of a node. -/
structure Properties where
  anchor : Option (List Char) := none
  tag : Option Tag := none
  deriving Repr, DecidableEq

structure Scalar where
  text : List Char
  style : ScalarStyle := .plain
  tag : Option Tag := none
  deriving Repr, DecidableEq

inductive Event where
  | documentStart
  | documentEnd
  | alias (name : List Char)
  | scalar (anchor : Option (List Char)) (scalar : Scalar)
  | sequenceStart (properties : Properties)
  | sequenceEnd
  | mappingStart (properties : Properties)
  | mappingEnd
  deriving Repr, DecidableEq

/-- The scalar of a place where nothing is written. -/
def Event.empty : Event :=
  .scalar none { text := [] }

/-- What may come next in a stream. -/
inductive Expectation where
  /-- A document that needs no start mark, if it is the first one. -/
  | document (first : Bool)
  /-- The content of a document behind its start mark. -/
  | content
  /-- A node in a block collection, or the root. -/
  | blockNode
  | documentEnd
  | blockItem
  /-- An item of a sequence whose dashes stand in the column of the keys around it. -/
  | flushItem
  | blockKey
  | blockValue
  | flowItem (first : Bool)
  /-- The key of a pair in a flow sequence. -/
  | pairKey
  | pairValue
  | pairEnd
  | flowKey (first : Bool)
  /-- The value of a flow mapping behind a key that was marked as one. -/
  | flowValue
  /-- The value of a flow mapping behind a key that was not. -/
  | noValue
  deriving Repr, DecidableEq

/-- The state of reading a stream: the tokens to come, what is expected, and what the
    handles of the document stand for. -/
structure Composer where
  tokens : List Token
  expected : List Expectation := [.document true]
  handles : List (List Char × Tag) := []

namespace Composer

def skip (composer : Composer) : Composer :=
  { composer with tokens := composer.tokens.tail }

/-- The state that expects something else, before what it expected besides. -/
def expect (composer : Composer) (next : Expectation) : Composer :=
  { composer with expected := next :: composer.expected }

/-- A step that tells of a place where nothing is written. -/
def emptyThen (composer : Composer) (next : Expectation) : Option (Event × Composer) :=
  some (.empty, composer.expect next)

def takeProperties? (composer : Composer) : Option (Properties × Composer) :=
  let resolve (handle : List Char) (suffix : Tag) := resolveTag? composer.handles handle suffix
  match composer.tokens with
  | .anchor name :: .tag handle suffix :: _ | .tag handle suffix :: .anchor name :: _ =>
    (resolve handle suffix).map fun tag =>
      ({ anchor := some name, tag := some tag }, composer.skip.skip)
  | .anchor name :: _ => some ({ anchor := some name }, composer.skip)
  | .tag handle suffix :: _ =>
    (resolve handle suffix).map fun tag => ({ tag := some tag }, composer.skip)
  | _ => some ({}, composer)

/-- A node. With `block` it may be a block collection, and with `flush` a sequence whose
    dashes stand in the column of the keys around it. -/
def takeNode? (composer : Composer) (block flush : Bool) : Option (Event × Composer) :=
  match composer.tokens with
  | .alias name :: _ => some (.alias name, composer.skip)
  | _ => do
    let (properties, behind) ← composer.takeProperties?
    match behind.tokens with
    | .scalar style text :: _ =>
      return (.scalar properties.anchor { text, style, tag := properties.tag }, behind.skip)
    | .flowSequenceStart :: _ =>
      return (.sequenceStart properties, behind.skip.expect (.flowItem true))
    | .flowMappingStart :: _ =>
      return (.mappingStart properties, behind.skip.expect (.flowKey true))
    | next =>
      if flush && next.head? == some .blockEntry then
        return (.sequenceStart properties, behind.expect .flushItem)
      else if block && next.head? == some .blockSequenceStart then
        return (.sequenceStart properties, behind.skip.expect .blockItem)
      else if block && next.head? == some .blockMappingStart then
        return (.mappingStart properties, behind.skip.expect .blockKey)
      else if properties.anchor.isSome || properties.tag.isSome then
        return (.scalar properties.anchor { text := [], tag := properties.tag }, behind)
      else none

/-- The directives before a document. There is one version at most, and no handle has two
    meanings; the standard handles are known besides. -/
def takeDirectives? (versioned : Bool) (handles : List (List Char × Tag)) :
    (tokens : List Token) → Option (List (List Char × Tag) × List Token)
  | .versionDirective major minor :: rest =>
    if versioned || major ≠ 1 || (minor ≠ 1 && minor ≠ 2) then none
    else takeDirectives? true handles rest
  | .tagDirective handle lead :: rest =>
    if (handles.lookup handle).isSome then none
    else takeDirectives? versioned (handles ++ [(handle, lead)]) rest
  | tokens => some (handles ++ standardHandles, tokens)

def takeDocument? (composer : Composer) (first : Bool) : Option (Event × Composer) :=
  match composer.tokens with
  | .versionDirective _ _ :: _ | .tagDirective _ _ :: _ | .documentStart :: _ => do
    let (handles, tokens) ← takeDirectives? false [] composer.tokens
    match tokens with
    | .documentStart :: rest =>
      return (.documentStart, { tokens := rest, expected := [.content, .documentEnd], handles })
    | _ => none
  | tokens =>
    if first then
      some (.documentStart, {
        tokens, expected := [.blockNode, .documentEnd], handles := standardHandles })
    else none

/-- Whether the content of a document is over before it began. -/
def endsDocument : List Token → Bool
  | .versionDirective _ _ :: _ | .tagDirective _ _ :: _ | .documentStart :: _
  | .documentEnd :: _ | [] => true
  | _ => false

/-- Whether the next token is one of several marks. -/
def isNext (composer : Composer) (marks : List Token) : Bool :=
  composer.tokens.head?.any marks.contains

/-- A node, unless one of several marks is next; then nothing is written. -/
def nodeUnless? (composer : Composer) (marks : List Token) (block flush : Bool)
    (next : Expectation) : Option (Event × Composer) :=
  if composer.isNext marks then composer.emptyThen next
  else (composer.expect next).takeNode? block flush

/-- An item of a flow sequence, from behind the comma before it. A marked key begins a
    mapping of one pair. -/
def takeFlowItem? (composer : Composer) : Option (Event × Composer) :=
  match composer.tokens with
  | .flowSequenceEnd :: _ => some (.sequenceEnd, composer.skip)
  | .key :: _ =>
    some (.mappingStart {}, (composer.skip.expect (.flowItem false)).expect .pairKey)
  | _ => (composer.expect (.flowItem false)).takeNode? false false

/-- A key of a flow mapping, from behind the comma before it. -/
def takeFlowKey? (composer : Composer) : Option (Event × Composer) :=
  match composer.tokens with
  | .flowMappingEnd :: _ => some (.mappingEnd, composer.skip)
  | .key :: _ =>
    composer.skip.nodeUnless? [.value, .flowEntry, .flowMappingEnd] false false .flowValue
  | _ => (composer.expect .noValue).takeNode? false false

/-- The step of an expectation that was taken off the stack. -/
def step? (composer : Composer) : (expected : Expectation) → Option (Event × Composer)
  | .document first => composer.takeDocument? first
  | .content =>
    if endsDocument composer.tokens then some (.empty, composer)
    else composer.takeNode? true false
  | .blockNode => composer.takeNode? true false
  | .documentEnd =>
    let behind := if composer.isNext [.documentEnd] then composer.skip else composer
    some (.documentEnd, behind.expect (.document false))
  | .blockItem =>
    match composer.tokens with
    | .blockEntry :: _ =>
      composer.skip.nodeUnless? [.blockEntry, .blockEnd] true false .blockItem
    | .blockEnd :: _ => some (.sequenceEnd, composer.skip)
    | _ => none
  | .flushItem =>
    match composer.tokens with
    | .blockEntry :: _ =>
      composer.skip.nodeUnless? [.blockEntry, .key, .value, .blockEnd] true false .flushItem
    | _ => some (.sequenceEnd, composer)
  | .blockKey =>
    match composer.tokens with
    | .key :: _ => composer.skip.nodeUnless? [.key, .value, .blockEnd] true true .blockValue
    | .blockEnd :: _ => some (.mappingEnd, composer.skip)
    | _ => none
  | .blockValue =>
    match composer.tokens with
    | .value :: _ => composer.skip.nodeUnless? [.key, .value, .blockEnd] true true .blockKey
    | _ => composer.emptyThen .blockKey
  | .flowItem first =>
    if first || composer.isNext [.flowSequenceEnd] then composer.takeFlowItem?
    else if composer.isNext [.flowEntry] then composer.skip.takeFlowItem?
    else none
  | .pairKey =>
    if composer.isNext [.value, .flowEntry, .flowSequenceEnd] then
      composer.skip.emptyThen .pairValue
    else (composer.expect .pairValue).takeNode? false false
  | .pairValue =>
    if composer.isNext [.value] then
      composer.skip.nodeUnless? [.flowEntry, .flowSequenceEnd] false false .pairEnd
    else composer.emptyThen .pairEnd
  | .pairEnd => some (.mappingEnd, composer)
  | .flowKey first =>
    if first || composer.isNext [.flowMappingEnd] then composer.takeFlowKey?
    else if composer.isNext [.flowEntry] then composer.skip.takeFlowKey?
    else none
  | .flowValue =>
    if composer.isNext [.value] then
      composer.skip.nodeUnless? [.flowEntry, .flowMappingEnd] false false (.flowKey false)
    else composer.emptyThen (.flowKey false)
  | .noValue => composer.emptyThen (.flowKey false)

/-- The tokens without end marks of documents before them. -/
def skipDocumentEnds : List Token → List Token
  | .documentEnd :: rest => skipDocumentEnds rest
  | tokens => tokens

/-- The events of a stream. Between documents there may be end marks. -/
def run (fuel : Nat) (told : Array Event) (composer : Composer) : Option (Array Event) :=
  match fuel with
  | 0 => none
  | fuel + 1 =>
    match composer.expected with
    | [] => none
    | next :: expected =>
      let tokens :=
        if next = .document false then skipDocumentEnds composer.tokens else composer.tokens
      let isOver := tokens.isEmpty && (next = .document true || next = .document false)
      if isOver then some told
      else
        match step? { composer with tokens, expected } next with
        | some (event, following) => run fuel (told.push event) following
        | none => none

end Composer

namespace Event

/-- The events of a stream of tokens. No token causes more than four events. -/
def ofTokens? (tokens : Array Token) : Option (Array Event) :=
  Composer.run (4 * tokens.size + 8) #[] { tokens := tokens.toList }

end Event

end Stencil.Yaml
