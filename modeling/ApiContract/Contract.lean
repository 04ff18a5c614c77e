import ApiContract.Catalog
import ApiContract.Request

set_option autoImplicit false

namespace ApiContract

structure Contract where
  requests : List Request := []
  types : Catalog := {}
  deriving DecidableEq

def Contract.mismatch? (c : Contract) : Option (String × String) :=
  (c.types.entries.find? fun e => e.1 ≠ e.2.name).map fun e => (e.1, e.2.name)

end ApiContract
