import ApiContract.Vocabulary

set_option autoImplicit false

namespace ApiContract

inductive Requirement where
  | required
  | notAllowed
  deriving DecidableEq

instance : Vocabulary Requirement where
  all := [
    .required, .notAllowed]
  spelling
    | .required => "REQUIRED"
    | .notAllowed => "NOT_ALLOWED"

end ApiContract
