set_option autoImplicit false

namespace ApiContract

inductive Json where
  | null
  | bool (value : Bool)
  | int (value : Int)
  -- A number that is not written as an integer, or as minus zero.
  | real (literal : String)
  | str (text : String)
  | arr (items : List Json)
  -- Fields stay in the order in which they are written, repeated ones included.
  | obj (fields : List (String × Json))
  -- A string, or an object with a key, that holds half of a surrogate pair. It is well formed and
  -- can be passed over, but it has no text.
  | unreadable

namespace Json

def ofNat (n : Nat) : Json :=
  .int n

def ofText? : Option String → Json
  | some text => .str text
  | none => .null

def ofTexts (texts : List String) : Json :=
  .arr (texts.map .str)

def insertField (key : String) (value : Json) : List (String × Json) → List (String × Json)
  | [] => [(key, value)]
  | f :: fs => if f.1 < key then f :: insertField key value fs else (key, value) :: f :: fs

mutual

def sorted : Json → Json
  | .arr items => .arr (sortedItems items)
  | .obj fields => .obj (sortedFields fields)
  | .null => .null
  | .bool value => .bool value
  | .int value => .int value
  | .real literal => .real literal
  | .str text => .str text
  | .unreadable => .unreadable

def sortedItems : List Json → List Json
  | [] => []
  | v :: vs => sorted v :: sortedItems vs

def sortedFields : List (String × Json) → List (String × Json)
  | [] => []
  | (key, v) :: fs => insertField key (sorted v) (sortedFields fs)

end

end Json

end ApiContract
