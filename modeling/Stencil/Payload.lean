import Stencil.Json.Printer
import Stencil.Json.Reader

/-! # Payloads and what identifiers are bound to

A payload is a JSON object. An identifier is looked up among its keys as it is written;
there is no syntax for paths. The shape of the value decides what a tag can use of it.
-/

namespace Stencil

/-- The data that a template is filled from: an object whose keys are identifiers. -/
structure Payload where
  fields : List (String × Json)

/-- Why a text or a value is no payload. -/
inductive PayloadError where
  /-- The text spells no JSON value. -/
  | malformed
  /-- The value is of another kind than an object. -/
  | notAnObject (kind : String)
  deriving Repr, DecidableEq

/-- The wording of the error, without what it is an error of. -/
def PayloadError.detail : PayloadError → String
  | malformed => "malformed value"
  | notAnObject kind => "expected a JSON object, got " ++ kind

namespace Payload

def ofJson : Json → Except PayloadError Payload
  | .object fields => .ok { fields }
  | other => .error (.notAnObject other.kindName)

def read (text : List Char) : Except PayloadError Payload :=
  match Json.read? text with
  | some value => ofJson value
  | none => .error .malformed

def value? (payload : Payload) (identifier : String) : Option Json :=
  payload.fields.lookup identifier

end Payload

/-- What an identifier is bound to. -/
inductive Binding where
  /-- No value, null or an empty list. -/
  | missing
  /-- A string, number or truth value as text, or a list of such joined to one text. -/
  | scalar (text : String)
  /-- Something with an address of its own. -/
  | asset (url : String)
  /-- Any other object or list, as JSON without blanks. -/
  | structured (text : String)
  deriving Repr, DecidableEq

namespace Binding

/-- What a text tag is replaced by. -/
def text? : Binding → Option String
  | missing => none
  | scalar text | asset text | structured text => some text

/-- Where the picture of an image tag is found. -/
def locator? : Binding → Option String
  | scalar text | asset text => some text
  | missing | structured _ => none

/-- A string, number or truth value as text. -/
def scalarText? : Json → Option (List Char)
  | .string value => some value.toList
  | .number value => some value.text
  | .bool value => some (if value then "true".toList else "false".toList)
  | _ => none

/-- The address of an object: its field `url`, if that is a string. -/
def url? (value : Json) : Option String :=
  (value.field? "url").bind Json.string?

/-- What a value binds. A list whose first item has an address is that asset; a list of
    scalars only is their texts with commas between them. -/
def ofJson (value : Json) : Binding :=
  match value with
  | .null | .array [] => missing
  | .string text => scalar text
  | .bool _ | .number _ => scalar (String.ofList ((scalarText? value).getD []))
  | .object _ =>
    match url? value with
    | some url => asset url
    | none => structured (String.ofList value.compact)
  | .array (first :: rest) =>
    match url? first with
    | some url => asset url
    | none =>
      match (first :: rest).mapM scalarText? with
      | some texts => scalar (String.ofList (Text.join [',', ' '] texts))
      | none => structured (String.ofList value.compact)

end Binding

def Payload.binding (payload : Payload) (identifier : String) : Binding :=
  match payload.value? identifier with
  | some value => Binding.ofJson value
  | none => .missing

end Stencil
