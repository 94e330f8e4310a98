import Stencil.Asset.Failure
import Stencil.Host.Address
import Stencil.Text.Basic

/-! # Locators of assets

Assets are fetched from addresses of the web only: those with one of two schemes, a host
that can be one, and a port that can be one. A locator is read the lenient way of browsers,
which drop line breaks, take reverse solidi for slashes and any number of them before the
host.
-/

namespace Stencil

namespace Locator

def schemes : List (List Char) :=
  ["http".toList, "https".toList]

def isControlOrSpace (c : Char) : Bool :=
  c.toNat ≤ 0x20

/-- The locator without what a reader of addresses passes over. -/
def clean (locator : List Char) : List Char :=
  let trimmed := (Text.trim locator).dropWhile isControlOrSpace
  (trimmed.reverse.dropWhile isControlOrSpace).reverse.filter fun c =>
    c != '\t' && c != '\n' && c != '\r'

def isScheme : List Char → Bool
  | [] => false
  | c :: rest => c.isAlpha && rest.all fun d => d.isAlphanum || d == '+' || d == '-' || d == '.'

/-- Whether the character separates the parts of an address. -/
def isSlash (c : Char) : Bool :=
  c == '/' || c == '\\'

def isPort (digits : List Char) : Bool :=
  digits.isEmpty || (Text.decimal? digits).any (· ≤ 65535)

/-- The host of an authority without a user, and the text of its port. -/
def splitPort (authority : List Char) : List Char × List Char :=
  match authority with
  | '[' :: _ =>
    match Text.splitFirst? ']' authority with
    | some (inner, ':' :: port) => (inner ++ [']'], port)
    | some (inner, rest) => (inner ++ ']' :: rest, [])
    | none => (authority, [])
  | _ => (Text.splitFirst? ':' authority).getD (authority, [])

/-- Whether an address with the given text behind its scheme names a host. -/
def namesHost (rest : List Char) : Bool :=
  let authority := (rest.dropWhile isSlash).takeWhile fun c =>
    !isSlash c && c != '?' && c != '#'
  let withoutUser := match Text.splitLast? '@' authority with
    | some (_, host) => host
    | none => authority
  let (host, port) := splitPort withoutUser
  Host.isHost host && isPort port

/-- Whether assets are fetched from the locator. -/
def isWebAddress (locator : String) : Bool :=
  match Text.splitFirst? ':' (clean locator.toList) with
  | none => false
  | some (scheme, rest) =>
    isScheme scheme && schemes.contains (Text.lowerAscii scheme) && namesHost rest

/-- Fails for a locator that nothing is fetched from. -/
def check (locator : String) : Except FetchFailure Unit :=
  if isWebAddress locator then .ok () else .error (.invalidLocator locator)

/-- The outcome of fetches where no server can be reached. -/
def fetchOffline (locator : String) : FetchOutcome :=
  match check locator with
  | .error failure => .error failure
  | .ok () => .error (.network locator "error sending request")

end Locator

end Stencil
