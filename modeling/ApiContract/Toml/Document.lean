import ApiContract.Document
import ApiContract.Toml.Parser

set_option autoImplicit false

namespace ApiContract.Toml.Value

def text? : Value → Option String
  | .text s => some s
  | _ => none

def bool? : Value → Option Bool
  | .bool value => some value
  | _ => none

def status? : Value → Option UInt16
  | .int n => if 0 ≤ n && n < 65536 then some (UInt16.ofNat n.toNat) else none
  | _ => none

def items? : Value → Option (List Value)
  | .array items | .tables items => some items
  | _ => none

def entries? : Value → Option (List (String × Value))
  | .table _ entries => some entries
  | _ => none

-- The keys of a table are distinct, so no field is repeated.
def fields? (names : List String) (v : Value) : Option (List (String × Value)) :=
  v.entries?.map (·.filter (names.contains ·.1))

def names? : Value → Option (List String)
  | .text s => some [s]
  | .array items => items.mapM text?
  | _ => none

instance : Document Value where
  text? := text?
  bool? := bool?
  status? := status?
  items? := items?
  entries? := entries?
  fields? := fields?
  -- No value says that there is none: a field is left out then.
  isAbsent? := fun _ => some false
  word? := text?
  names? := names?

end ApiContract.Toml.Value
