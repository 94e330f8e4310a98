/-! # Failures of fetches

One asset is fetched at a time, by its locator. A failure says why the bytes of that asset
cannot be had; it never is a failure of anything else.
-/

namespace Stencil

/-- Why an asset cannot be had. -/
inductive FetchFailure where
  /-- The locator is no address that anything is fetched from. -/
  | invalidLocator (locator : String)
  /-- Nothing can be fetched at all. -/
  | noClient (detail : String)
  /-- The exchange with the server broke off. -/
  | network (locator detail : String)
  /-- The server answered with another status than success. -/
  | status (locator : String) (code : Nat)
  /-- The server took too long. -/
  | timeout (locator : String) (seconds : Nat)
  /-- The asset has more bytes than are accepted. -/
  | tooLarge (locator : String) (limit : Nat)
  | empty (locator : String)
  deriving Repr, DecidableEq

namespace FetchFailure

def message : FetchFailure → String
  | invalidLocator locator => "Invalid asset locator: " ++ locator
  | noClient detail => "HTTP client could not be created: " ++ detail
  | network locator detail => "Network error fetching " ++ locator ++ ": " ++ detail
  | status locator code => "HTTP " ++ toString code ++ " fetching " ++ locator
  | timeout locator seconds =>
    "Timed out fetching " ++ locator ++ " after " ++ toString seconds ++ " seconds"
  | tooLarge locator limit => "Asset " ++ locator ++ " exceeds " ++ toString limit ++ " bytes"
  | empty locator => "Asset " ++ locator ++ " has an empty body"

def locator? : FetchFailure → Option String
  | noClient _ => none
  | invalidLocator locator | network locator _ | status locator _ | timeout locator _
  | tooLarge locator _ | empty locator => some locator

end FetchFailure

/-- The bytes of an asset, or why they cannot be had. -/
abbrev FetchOutcome := Except FetchFailure ByteArray

/-- A source of assets answers each locator. -/
abbrev Fetcher := (locator : String) → FetchOutcome

end Stencil
