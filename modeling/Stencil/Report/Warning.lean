import Stencil.Json.Basic

/-! # Warnings

A warning names one tag that was not filled as its author meant it, and says why. A
warning never stops a report by itself.
-/

namespace Stencil

/-- Why a tag was not filled. -/
inductive WarningReason where
  /-- The payload binds the identifier to nothing. -/
  | unresolved
  /-- The text looks like a tag and is none. -/
  | malformed (detail : String)
  /-- An image tag is bound to a value without a locator. -/
  | notAnAsset
  /-- The picture of an image tag cannot be had. -/
  | fetchFailed (detail : String)
  deriving Repr, DecidableEq

namespace WarningReason

def message : WarningReason → String
  | unresolved => "unresolved"
  | malformed detail => "malformed: " ++ detail
  | notAnAsset => "not an image asset"
  | fetchFailed detail => "fetch failed: " ++ detail

/-- The word that the reason is told by in JSON. -/
def word : WarningReason → String
  | unresolved => "unresolved"
  | malformed _ => "malformed"
  | notAnAsset => "not_an_asset"
  | fetchFailed _ => "fetch_failed"

def detail? : WarningReason → Option String
  | malformed detail | fetchFailed detail => some detail
  | unresolved | notAnAsset => none

def toJson (reason : WarningReason) : Json :=
  match reason.detail? with
  | some detail => .object [("kind", .string reason.word), ("detail", .string detail)]
  | none => .object [("kind", .string reason.word)]

/-- The reason of a word, with its detail. A reason without a detail may have null for
    it. -/
def ofWord? (word : String) (detail : Option Json) : Option WarningReason :=
  match word, detail with
  | "unresolved", none | "unresolved", some .null => some unresolved
  | "not_an_asset", none | "not_an_asset", some .null => some notAnAsset
  | "malformed", some (.string detail) => some (malformed detail)
  | "fetch_failed", some (.string detail) => some (fetchFailed detail)
  | _, _ => none

/-- The reason that a JSON value stands for: an object with its word and its detail, or a list
    of the two, which has the word as a string. -/
def ofJson? : Json → Option WarningReason
  | .array [.string word, detail] => ofWord? word (some detail)
  | .object fields =>
    ((fields.lookup "kind").bind Json.word?).bind fun word => ofWord? word (fields.lookup "detail")
  | _ => none

end WarningReason

/-- A tag that was not filled, and why. -/
structure Warning where
  identifier : String
  /-- The text of the tag as it stands in its part, without markup. -/
  raw : String
  part : String
  reason : WarningReason
  deriving Repr, DecidableEq

namespace Warning

def message (warning : Warning) : String :=
  warning.part ++ ": " ++ warning.raw ++ " (" ++ warning.reason.message ++ ")"

def toJson (warning : Warning) : Json :=
  .object
    [("identifier", .string warning.identifier), ("raw", .string warning.raw),
     ("part", .string warning.part), ("reason", warning.reason.toJson)]

def ofJson? (value : Json) : Option Warning :=
  match value.components? ["identifier", "raw", "part", "reason"] with
  | some [identifier, raw, part, some reason] => do
    return {
      identifier := ← Json.requiredString? identifier
      raw := ← Json.requiredString? raw
      part := ← Json.requiredString? part
      reason := ← WarningReason.ofJson? reason }
  | _ => none

end Warning

end Stencil
