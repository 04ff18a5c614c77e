import ApiContract.Vocabulary

set_option autoImplicit false

namespace ApiContract

-- Object storage, management, or internal: requests of the last are in no client.
inductive Family where
  | objectApi
  | managementApi
  | internal
  deriving DecidableEq

instance : Vocabulary Family where
  all := [
    .objectApi, .managementApi, .internal]
  spelling
    | .objectApi => "amazons3"
    | .managementApi => "spectrads3"
    | .internal => "spectrainternal"

end ApiContract
