import ApiContract.Json
import ApiContract.Json.Token

set_option autoImplicit false

namespace ApiContract.Json

-- An open array or object, its members in reverse.
inductive Frame where
  | arr (items : List Json)
  | obj (fields : List (Option String × Json)) (key : Option String)

inductive Expects where
  | value (stack : List Frame)
  | itemOrEnd (stack : List Frame)
  | keyOrEnd (stack : List Frame)
  | key (fields : List (Option String × Json)) (stack : List Frame)
  | colon (fields : List (Option String × Json)) (key : Option String) (stack : List Frame)
  | more (frame : Frame) (stack : List Frame)
  | nothing (value : Json)

-- The object with these fields, if all its keys have a text.
def ofFields (fields : List (Option String × Json)) : Json :=
  match fields.mapM fun f => f.1.map (·, f.2) with
  | some fields => .obj fields
  | none => .unreadable

namespace Expects

def place (v : Json) : List Frame → Expects
  | [] => .nothing v
  | .arr items :: stack => .more (.arr (v :: items)) stack
  | .obj fields name :: stack => .more (.obj ((name, v) :: fields) none) stack

def startValue (stack : List Frame) : Token → Option Expects
  | .openObject => some (.keyOrEnd stack)
  | .openArray => some (.itemOrEnd stack)
  | .null => some (place .null stack)
  | .bool b => some (place (.bool b) stack)
  | .int n => some (place (.int n) stack)
  | .real literal => some (place (.real literal) stack)
  | .text (some s) => some (place (.str s) stack)
  | .text none => some (place .unreadable stack)
  | .closeObject | .closeArray | .colon | .comma => none

def step : Expects → Token → Option Expects
  | .value stack, t => startValue stack t
  | .itemOrEnd stack, .closeArray => some (place (.arr []) stack)
  | .itemOrEnd stack, t => startValue (.arr [] :: stack) t
  | .keyOrEnd stack, .closeObject => some (place (.obj []) stack)
  | .keyOrEnd stack, .text name => some (.colon [] name stack)
  | .key fields stack, .text name => some (.colon fields name stack)
  | .colon fields name stack, .colon => some (.value (.obj fields name :: stack))
  | .more (.arr items) stack, .comma => some (.value (.arr items :: stack))
  | .more (.arr items) stack, .closeArray => some (place (.arr items.reverse) stack)
  | .more (.obj fields _) stack, .comma => some (.key fields stack)
  | .more (.obj fields _) stack, .closeObject => some (place (ofFields fields.reverse) stack)
  | _, _ => none

def value? : Expects → Option Json
  | .nothing v => some v
  | _ => none

end Expects

def parse? (text : String) : Option Json := do
  let tokens ← tokens? text.toList
  let final ← tokens.foldlM Expects.step (.value [])
  final.value?

end ApiContract.Json
