import Stencil.Number.Binary64

/-! # JSON values

Whole numbers that fit 64 bits stay whole; every other number is a floating point number.
The fields of an object that was read are in the order of their keys and each key occurs
once.
-/

namespace Stencil

inductive JsonNumber where
  /-- A whole number, signed or unsigned, of 64 bits. -/
  | whole (value : Int)
  /-- Any other number, minus zero included. -/
  | float (value : Binary64)
  deriving Repr, DecidableEq

inductive Json where
  | null
  | bool (value : Bool)
  | number (value : JsonNumber)
  | string (value : String)
  | array (items : List Json)
  | object (fields : List (String × Json))
  deriving Repr

namespace Json

/-- The word for the kind of a value. -/
def kindName : Json → String
  | null => "null"
  | bool _ => "boolean"
  | number _ => "number"
  | string _ => "string"
  | array _ => "array"
  | object _ => "object"

/-- The value of the field with the given key, if this is an object that has one. -/
def field? (key : String) : Json → Option Json
  | object fields => fields.lookup key
  | _ => none

def string? : Json → Option String
  | string value => some value
  | _ => none

/-- The truth value, if this is one. -/
def bool? : Json → Option Bool
  | bool value => some value
  | _ => none

def items? : Json → Option (List Json)
  | array items => some items
  | _ => none

/-- The number, if this is a whole number that is not negative. -/
def nat? : Json → Option Nat
  | number (.whole value) => value.toNat?
  | _ => none

def ofNat (value : Nat) : Json :=
  number (.whole value)

/-- A string, or null where there is none. -/
def ofString? (value : Option String) : Json :=
  match value with
  | some text => string text
  | none => null

/-- Fields in the order of their keys with one more of them. A key that is there already
    gets the new value. -/
def insertField (key : String) (value : Json) : List (String × Json) → List (String × Json)
  | [] => [(key, value)]
  | (other, kept) :: rest =>
    if key = other then (key, value) :: rest
    else if key < other then (key, value) :: (other, kept) :: rest
    else (other, kept) :: insertField key value rest

/-! ## Records as JSON

A record is written as an object with one field for each of its components. It is read
from such an object, whatever other fields that has, and from a list of the components in
their order.
-/

/-- The components of a record, in the order of their names; `none` for a component that an
    object has no field for. -/
def components? (names : List String) : Json → Option (List (Option Json))
  | object fields => some (names.map fun name => fields.lookup name)
  | array items => if items.length = names.length then some (items.map some) else none
  | _ => none

/-- A word out of several: a string, or an object with the word as its only key and nothing
    as its value. -/
def word? : Json → Option String
  | string word => some word
  | object [(word, null)] => some word
  | _ => none

def requiredString? : Option Json → Option String
  | some (string text) => some text
  | _ => none

/-- A component that may be left out: no text where it is missing or null. -/
def optionalString? : Option Json → Option (Option String)
  | none | some null => some none
  | some (string text) => some (some text)
  | _ => none

end Json

end Stencil
