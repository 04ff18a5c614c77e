set_option autoImplicit false

namespace ApiContract

inductive Setting where
  | text (text : String)
  | flag (value : Bool)
  | texts (texts : List String)
  deriving DecidableEq

abbrev Settings := List (String × Setting)

end ApiContract
