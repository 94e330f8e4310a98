import Stencil.Package.Document
import Stencil.Payload
import Stencil.Report.Warning

/-! # Errors of reports

What stops a report altogether. An error carries the warnings that were collected before
it.
-/

namespace Stencil

/-- Why there is no report. -/
inductive RenderError where
  /-- The template is no package, or the report cannot be packed as one. -/
  | package (cause : PackageError)
  /-- A part that tags are looked for in is no markup. -/
  | unreadablePart (part : String) (warnings : List Warning)
  /-- There are warnings, and none are tolerated. -/
  | unresolved (warnings : List Warning)
  /-- The payload is no object. -/
  | invalidPayload (detail : String)
  /-- The payload is no JSON. -/
  | malformedPayload (detail : String)
  deriving Repr, DecidableEq

namespace RenderError

/-- The text of a warning among others: its tag and its reason. -/
def summary (warning : Warning) : String :=
  warning.raw ++ " [" ++ warning.reason.message ++ "]"

def message : RenderError → String
  | package cause => "Template archive error: " ++ cause.message
  | unreadablePart part _ => "Part " ++ part ++ " is not readable markup"
  | unresolved warnings =>
    "Template has " ++ toString warnings.length ++ " problem tag(s): " ++
      ", ".intercalate (warnings.map summary)
  | invalidPayload detail => "Invalid render context: " ++ detail
  | malformedPayload detail => "JSON error: " ++ detail

def warnings : RenderError → List Warning
  | unreadablePart _ warnings | unresolved warnings => warnings
  | package _ | invalidPayload _ | malformedPayload _ => []

/-- The error of a text or value that is no payload. -/
def ofPayload : PayloadError → RenderError
  | .notAnObject kind => invalidPayload (PayloadError.notAnObject kind).detail
  | .malformed => malformedPayload PayloadError.malformed.detail

end RenderError

end Stencil
