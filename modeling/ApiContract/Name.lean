import ApiContract.Text.Search

set_option autoImplicit false

namespace ApiContract.Name

open Text

def simple (name : String) : String :=
  match splitLast? '.' name.toList with
  | some (_, after) => String.ofList after
  | none => name

def scope (name : String) : String :=
  match splitLast? '.' name.toList with
  | some (before, _) => String.ofList before
  | none => ""

/-- The part after the last `$`, or the simple name where there is none. -/
def unqualified (name : String) : String :=
  match splitLast? '$' name.toList with
  | some (_, after) => String.ofList after
  | none => simple name

def withoutHandler (name : String) : String :=
  match dropTail? "Handler".toList name.toList with
  | some stem => String.ofList stem
  | none => name

def requestTails : List String := ["RequestHandler", "Request"]

-- A simple name taken apart before its tail. A stem does not span lines.
def splitTail? (simpleName : String) : Option (String × String) :=
  requestTails.findSome? fun tail =>
    match dropTail? tail.toList simpleName.toList with
    | some stem => if '\n' ∈ stem then none else some (String.ofList stem, tail)
    | none => none

def stem (name : String) : String :=
  match splitTail? (simple name) with
  | some (front, _) => front
  | none => simple name

def insertInSimple (simpleName token : String) : String :=
  match splitTail? simpleName with
  | some (front, tail) => front ++ token ++ tail
  | none => simpleName ++ token

/-- Puts `token` before the tail of the name and keeps its scope. -/
def insertBeforeTail (name token : String) : String :=
  let renamed := insertInSimple (simple name) token
  if scope name = "" then renamed else scope name ++ "." ++ renamed

def fullDetailsToken : String := "FullDetails"

def fullDetails (name : String) : String :=
  insertBeforeTail name fullDetailsToken

def replaceLastRequest (simpleName word : String) : String :=
  match splitLastWord? "Request".toList simpleName.toList with
  | some (before, after) => String.ofList before ++ word ++ String.ofList after
  | none => simpleName

def response (name : String) : String :=
  replaceLastRequest (simple name) "Response"

def responseParser (name : String) : String :=
  replaceLastRequest (simple name) "ResponseParser"

def mentions (name word : String) : Bool :=
  (splitLastWord? word.toList name.toList).isSome

def endsIn (name tail : String) : Bool :=
  (dropTail? tail.toList name.toList).isSome

theorem simple_eq_self_of_no_dot {name : String} (h : '.' ∉ name.toList) : simple name = name := by
  simp [simple, splitLast?_eq_none_iff.mpr h]

theorem no_dot_in_simple (name : String) : '.' ∉ (simple name).toList := by
  unfold simple
  split
  case h_1 before after found => simpa using (splitLast?_eq_some found).2
  case h_2 found => exact splitLast?_eq_none_iff.mp found

@[simp] theorem simple_simple (name : String) : simple (simple name) = simple name :=
  simple_eq_self_of_no_dot (no_dot_in_simple name)

end ApiContract.Name
