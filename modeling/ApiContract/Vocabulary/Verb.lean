import ApiContract.Vocabulary

set_option autoImplicit false

namespace ApiContract

inductive Verb where
  | delete
  | get
  | head
  | post
  | put
  deriving DecidableEq

instance : Vocabulary Verb where
  all := [
    .delete, .get, .head, .post, .put]
  spelling
    | .delete => "DELETE"
    | .get => "GET"
    | .head => "HEAD"
    | .post => "POST"
    | .put => "PUT"

end ApiContract
