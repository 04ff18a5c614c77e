import ApiContract.Error
import ApiContract.Text.Ascii
import ApiContract.Vocabulary

set_option autoImplicit false

namespace ApiContract

/-- `generic` keeps the type names of the contract; `rust` has the names of that language. -/
inductive Target where
  | rust
  | generic
  deriving DecidableEq

instance : Vocabulary Target where
  all := [.rust, .generic]
  spelling
    | .rust => "rust"
    | .generic => "generic"

namespace Target

def text (t : Target) : String :=
  Vocabulary.spelling t

def ofText? (name : String) : Except Error Target :=
  match Vocabulary.all.find? fun t => Text.sameIgnoringCase (text t) name with
  | some t => .ok t
  | none => .error (.unsupportedTarget name)

end Target

end ApiContract
