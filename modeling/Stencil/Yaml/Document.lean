import Stencil.Yaml.Event

/-! # Documents of YAML

A document is a tree of scalars, sequences and mappings, in which an alias stands for a node
that an anchor marks. Anchors are numbered by how many other names are marked before; an alias
means the last node that got the number of its name. So a node may contain an alias of itself,
and the tree stays finite.
-/

namespace Stencil

inductive YamlNode where
  | scalar (scalar : Yaml.Scalar)
  | sequence (tag : Option Yaml.Tag) (items : List YamlNode)
  | mapping (tag : Option Yaml.Tag) (entries : List (YamlNode × YamlNode))
  /-- The node that begins with the event of the given index. -/
  | alias (index : Nat)
  deriving Repr

/-- A document: its root, and the nodes that have anchors by the indices of their first
    events. -/
structure YamlDocument where
  root : YamlNode
  marked : List (Nat × YamlNode) := []
  deriving Repr

namespace Yaml

/-- The node of a place where nothing is written. -/
def emptyNode : YamlNode :=
  .scalar { text := [] }

/-- The names of anchors with their numbers, and the index of the last node for each number;
    both with later entries first. -/
structure Anchors where
  names : List (List Char × Nat) := []
  nodes : List (Nat × Nat) := []
  /-- How many names are marked. -/
  count : Nat := 0
  deriving Repr

namespace Anchors

/-- The anchors with a further one, which the event of an index has. -/
def mark (anchors : Anchors) (index : Nat) : Option (List Char) → Anchors
  | none => anchors
  | some name =>
    let number := anchors.count
    { names := (name, number) :: anchors.names
      nodes := (number, index) :: anchors.nodes
      count := if (anchors.names.lookup name).isSome then number else number + 1 }

end Anchors

/-- The numbers of the aliases among the events, each behind the anchor of its name; and the
    index of the last node for each number. -/
def numberAliases (index : Nat) (anchors : Anchors) (numbers : List Nat) :
    (events : List Event) → Option (List Nat × List (Nat × Nat))
  | [] => some (numbers.reverse, anchors.nodes)
  | event :: rest =>
    match event with
    | .alias name =>
      match anchors.names.lookup name with
      | some number => numberAliases (index + 1) anchors (number :: numbers) rest
      | none => none
    | .scalar anchor _ => numberAliases (index + 1) (anchors.mark index anchor) numbers rest
    | .sequenceStart properties | .mappingStart properties =>
      numberAliases (index + 1) (anchors.mark index properties.anchor) numbers rest
    | .sequenceEnd | .mappingEnd | .documentStart | .documentEnd =>
      numberAliases (index + 1) anchors numbers rest

/-- A collection that is being read: the index of its first event, its properties, and its
    nodes so far in reverse. -/
structure OpenNode where
  index : Nat
  properties : Properties
  nodes : List YamlNode := []

/-- The nodes by twos. A mapping has an even number of them. -/
def pairs : List YamlNode → List (YamlNode × YamlNode)
  | key :: value :: rest => (key, value) :: pairs rest
  | _ => []

/-- A document that is being read: the open collections from the inside, the root once it is
    complete, and the complete nodes that have anchors. -/
structure OpenDocument where
  stack : List OpenNode := []
  root : Option YamlNode := none
  marked : List (Nat × YamlNode) := []

namespace OpenDocument

/-- The document with a complete node in its innermost open collection. -/
def add (document : OpenDocument) (index : Nat) (anchor : Option (List Char))
    (node : YamlNode) : OpenDocument :=
  let marked := if anchor.isSome then (index, node) :: document.marked else document.marked
  match document.stack with
  | [] => { document with root := some node, marked }
  | inner :: outer =>
    { document with stack := { inner with nodes := node :: inner.nodes } :: outer, marked }

/-- The document with a further open collection. -/
def enter (document : OpenDocument) (index : Nat) (properties : Properties) : OpenDocument :=
  { document with stack := { index, properties } :: document.stack }

/-- The document with its innermost open collection completed. -/
def leave (document : OpenDocument)
    (node : (tag : Option Tag) → List YamlNode → YamlNode) : OpenDocument :=
  match document.stack with
  | [] => document
  | inner :: outer =>
    let complete := node inner.properties.tag inner.nodes.reverse
    { document with stack := outer }.add inner.index inner.properties.anchor complete

/-- The document read from events, with the indices of the nodes that the aliases among them
    stand for. -/
def read (document : OpenDocument) (index : Nat) (targets : List Nat) :
    (events : List Event) → OpenDocument
  | [] => document
  | event :: rest =>
    match event with
    | .alias _ =>
      let target := targets.head?.getD 0
      (document.add index none (.alias target)).read (index + 1) targets.tail rest
    | .scalar anchor scalar =>
      (document.add index anchor (.scalar scalar)).read (index + 1) targets rest
    | .sequenceStart properties | .mappingStart properties =>
      (document.enter index properties).read (index + 1) targets rest
    | .sequenceEnd => (document.leave .sequence).read (index + 1) targets rest
    | .mappingEnd =>
      (document.leave fun tag nodes => .mapping tag (pairs nodes)).read (index + 1) targets rest
    | .documentStart | .documentEnd => document.read (index + 1) targets rest

end OpenDocument

end Yaml

namespace YamlDocument

open Yaml

/-- The one document of a stream. A stream without a document stands for an empty node. -/
def ofEvents? (events : List Event) : Option YamlDocument :=
  if 1 < events.count .documentStart then none
  else do
    let (numbers, nodes) ← numberAliases 0 {} [] events
    let targets := numbers.map fun number => (nodes.lookup number).getD 0
    let read := ({} : OpenDocument).read 0 targets events
    return { root := read.root.getD emptyNode, marked := read.marked }

def ofText? (text : List Char) : Option YamlDocument :=
  ((Token.ofText? text).bind Event.ofTokens?).bind fun events => ofEvents? events.toList

/-- The node itself, or the node that it is an alias of. -/
def resolve? (document : YamlDocument) : YamlNode → Option YamlNode
  | .alias index => document.marked.lookup index
  | node => some node

end YamlDocument

end Stencil
