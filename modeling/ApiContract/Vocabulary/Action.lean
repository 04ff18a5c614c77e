import ApiContract.Vocabulary
import ApiContract.Vocabulary.Verb

set_option autoImplicit false

namespace ApiContract

inductive KnownAction where
  | bulkDelete
  | bulkModify
  | create
  | delete
  | list
  | modify
  | show
  deriving DecidableEq

instance : Vocabulary KnownAction where
  all := [
    .bulkDelete, .bulkModify, .create, .delete, .list, .modify, .show]
  spelling
    | .bulkDelete => "BULK_DELETE"
    | .bulkModify => "BULK_MODIFY"
    | .create => "CREATE"
    | .delete => "DELETE"
    | .list => "LIST"
    | .modify => "MODIFY"
    | .show => "SHOW"

abbrev Action := Open KnownAction

def Action.verb? : Action → Option Verb
  | .known .create | .known .modify | .known .bulkModify => some .put
  | .known .delete | .known .bulkDelete => some .delete
  | .known .list | .known .show => some .get
  | .other _ _ => none

end ApiContract
