import ApiContract.Vocabulary

set_option autoImplicit false

namespace ApiContract

class Document (V : Type) where
  text? : V → Option String
  bool? : V → Option Bool
  status? : V → Option UInt16
  items? : V → Option (List V)
  entries? : V → Option (List (String × V))
  fields? : List String → V → Option (List (String × V))
  -- Whether the value says that there is none; a few values say neither.
  isAbsent? : V → Option Bool
  word? : V → Option String
  names? : V → Option (List String)

namespace Document

variable {V α : Type} [Document V]

def list? (item? : V → Option α) (v : V) : Option (List α) :=
  (items? v).bind (·.mapM item?)

def closed? [Vocabulary α] (v : V) : Option α :=
  (word? v).bind Vocabulary.find?

def open? [Vocabulary α] (v : V) : Option (Open α) :=
  (text? v).map Open.ofText

def required? (fields : List (String × V)) (name : String) (read? : V → Option α) : Option α :=
  (fields.lookup name).bind read?

def defaulted? (fields : List (String × V)) (name : String) (read? : V → Option α) (default : α) :
    Option α :=
  match fields.lookup name with
  | some v => read? v
  | none => some default

def optional? (fields : List (String × V)) (name : String) (read? : V → Option α) :
    Option (Option α) :=
  match fields.lookup name with
  | some v =>
    match isAbsent? v with
    | some true => some none
    | some false => (read? v).map some
    | none => none
  | none => some none

end Document

end ApiContract
