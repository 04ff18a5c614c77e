import ApiContract.Document.Contract
import ApiContract.Json.Parser
import ApiContract.Yaml.Document

set_option autoImplicit false

namespace ApiContract.Contract

def read? (text : String) : Option Contract :=
  ((Json.parse? text).bind ofDocument?) <|> ((Yaml.value? text).bind ofDocument?)

/-- The contract of a text. Each key of its catalog must be the name of the definition. -/
def ofText? (text : String) : Except ParseError Contract :=
  match read? text with
  | none => .error (.unreadable text)
  | some c =>
    match c.mismatch? with
    | some (key, name) => .error (.keyMismatch key name)
    | none => .ok c

end ApiContract.Contract
