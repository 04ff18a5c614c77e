import ApiContract.Vocabulary

set_option autoImplicit false

namespace ApiContract

inductive Multiplicity where
  | singleton
  | nonSingleton
  deriving DecidableEq

instance : Vocabulary Multiplicity where
  all := [
    .singleton, .nonSingleton]
  spelling
    | .singleton => "SINGLETON"
    | .nonSingleton => "NON_SINGLETON"

end ApiContract
