import Stencil.Asset.Failure

/-! # Catalogs of assets

A catalog answers the locators it lists as it says, and every other one as a server does
that does not know it.
-/

namespace Stencil

/-- What is answered for each of some locators. -/
abbrev AssetCatalog := List (String × FetchOutcome)

/-- The status code of a server that does not know an address. -/
def notFound : Nat := 404

def AssetCatalog.fetch (catalog : AssetCatalog) (locator : String) : FetchOutcome :=
  match catalog.lookup locator with
  | some outcome => outcome
  | none => .error (.status locator notFound)

end Stencil
