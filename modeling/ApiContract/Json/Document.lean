import ApiContract.Document
import ApiContract.Json

set_option autoImplicit false

namespace ApiContract.Json

def text? : Json → Option String
  | .str text => some text
  | _ => none

def bool? : Json → Option Bool
  | .bool value => some value
  | _ => none

def status? : Json → Option UInt16
  | .int n => if 0 ≤ n && n < 65536 then some (UInt16.ofNat n.toNat) else none
  | _ => none

def items? : Json → Option (List Json)
  | .arr items => some items
  | _ => none

def entries? : Json → Option (List (String × Json))
  | .obj fields => some fields
  | _ => none

def fields? (names : List String) : Json → Option (List (String × Json))
  | .obj fields =>
    let known := fields.filter (names.contains ·.1)
    if (known.map (·.1)).Nodup then some known else none
  -- The values of the fields alone, in their order.
  | .arr items => if items.length ≤ names.length then some (names.zip items) else none
  | _ => none

def isAbsent? : Json → Option Bool
  | .null => some true
  | _ => some false

/-- A word is a string, or the key of an object that says no more about it. -/
def word? : Json → Option String
  | .str text => some text
  | .obj [(key, .null)] => some key
  | _ => none

def names? : Json → Option (List String)
  | .str text => some [text]
  | .arr items => items.mapM text?
  | .null => some []
  | _ => none

instance : Document Json where
  text? := text?
  bool? := bool?
  status? := status?
  items? := items?
  entries? := entries?
  fields? := fields?
  isAbsent? := isAbsent?
  word? := word?
  names? := names?

def optionalField {α : Type} (name : String) (toJson : α → Json) : Option α → List (String × Json)
  | some value => [(name, toJson value)]
  | none => []

def listField {α : Type} (name : String) (toJson : α → Json) : List α → List (String × Json)
  | [] => []
  | values => [(name, .arr (values.map toJson))]

end ApiContract.Json
