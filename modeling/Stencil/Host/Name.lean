import Stencil.Host.Direction
import Stencil.Host.Joining
import Stencil.Host.Mapping
import Stencil.Host.Punycode
import Stencil.Text.Composition

/-! # Names of hosts

A name consists of labels between dots. Each character is replaced by what it stands for, and
the whole is composed. A label may be written in ASCII behind a mark of four characters; it
must then be written just as the label that it stands for would be.

Labels of ASCII alone may have any characters that no address gives a meaning to. Others
must not begin with a combining mark, and have joiners only where they belong.
-/

namespace Stencil.Host

/-- ASCII characters that no name has: controls, the space, and those with a meaning in
    addresses. -/
def isForbidden (c : Char) : Bool :=
  c.toNat ≤ 0x20 || c.toNat = 0x7F || "%#/:<>?@[\\]^`\x7b|\x7d".toList.contains c

/-- What stands before a label that is written in ASCII. -/
def asciiMark : List Char := "xn--".toList

/-- The most characters of a label that is written in ASCII, behind the mark. -/
def greatestEncoded : Nat := 2000

/-- The most characters of a label that is not ASCII. -/
def greatestLabel : Nat := 1000

def isAscii (c : Char) : Bool :=
  c.toNat < 0x80

/-- Whether a label is written as its characters would be replaced and composed. -/
def isNormal (label : List Char) : Bool :=
  (label.all fun c => mapChar? c = some [c]) && Text.compose label = label

/-- Whether a label that is not ASCII can be part of a name. -/
def isLabel (label : List Char) : Bool :=
  label.length ≤ greatestLabel && !label.head?.any Text.isMark && joinersFit [] label

/-- The label that a part of a name stands for; `none` if it stands for none. -/
def labelOf? (part : List Char) : Option (List Char) :=
  if asciiMark.isPrefixOf part then
    let encoded := part.drop asciiMark.length
    if greatestEncoded < encoded.length || !part.all isAscii then none
    else
      (Punycode.decode? encoded).filter fun label =>
        !label.any (fun c => c = '.' || isForbidden c) && isNormal label && isLabel label
  else if part.all isAscii || isLabel part then some part
  else none

/-- The name that a text stands for, with labels written in ASCII left as they are; `none` if
    it stands for none. -/
def nameOf? (text : List Char) : Option (List Char) := do
  let mapped ← text.mapM mapChar?
  let name := Text.compose mapped.flatten
  let labels ← (Text.splitAll '.' name).mapM labelOf?
  if !name.any isForbidden && areDirected labels then some name else none

end Stencil.Host
