import ApiContract.Error

set_option autoImplicit false

namespace ApiContract

class Network where
  /-- The address that a location stands for, in its usual form. Any other location is a path. -/
  address? : String → Option String
  fetch : String → Except FetchError String

-- Without a network all locations are paths.
instance Network.offline : Network where
  address? _ := none
  fetch _ := .error (.unreachable "offline")

end ApiContract
