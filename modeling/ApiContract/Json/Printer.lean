import ApiContract.Json

set_option autoImplicit false

namespace ApiContract.Json

def hexByte (n : Nat) : List Char :=
  [Nat.digitChar (n / 16), Nat.digitChar (n % 16)]

def escapeChar (c : Char) : List Char :=
  match c with
  | '"' => ['\\', '"']
  | '\\' => ['\\', '\\']
  | '\x08' => ['\\', 'b']
  | '\x0c' => ['\\', 'f']
  | '\n' => ['\\', 'n']
  | '\r' => ['\\', 'r']
  | '\t' => ['\\', 't']
  | c => if c.toNat < 0x20 then ['\\', 'u', '0', '0'] ++ hexByte c.toNat else [c]

def quote (text : String) : String :=
  "\"" ++ String.ofList (text.toList.flatMap escapeChar) ++ "\""

def lineBreak (depth : Nat) : String :=
  "\n" ++ String.ofList (List.replicate (2 * depth) ' ')

mutual

def render : Json → String
  | .null => "null"
  | .bool value => if value then "true" else "false"
  | .int value => toString value
  | .real literal => literal
  | .str text => quote text
  | .arr items => "[" ++ ",".intercalate (renderItems items) ++ "]"
  | .obj fields => "\x7b" ++ ",".intercalate (renderFields fields) ++ "\x7d"
  | .unreadable => "null"

def renderItems : List Json → List String
  | [] => []
  | v :: vs => render v :: renderItems vs

def renderFields : List (String × Json) → List String
  | [] => []
  | (key, v) :: fs => (quote key ++ ":" ++ render v) :: renderFields fs

end

mutual

def prettyAt (depth : Nat) : Json → String
  | .null => "null"
  | .bool value => if value then "true" else "false"
  | .int value => toString value
  | .real literal => literal
  | .str text => quote text
  | .arr [] => "[]"
  | .arr (v :: vs) =>
    "[" ++ lineBreak (depth + 1) ++ prettyAt (depth + 1) v ++ prettyItems (depth + 1) vs ++
      lineBreak depth ++ "]"
  | .obj [] => "\x7b\x7d"
  | .obj ((key, v) :: fs) =>
    "\x7b" ++ lineBreak (depth + 1) ++ quote key ++ ": " ++ prettyAt (depth + 1) v ++
      prettyFields (depth + 1) fs ++ lineBreak depth ++ "\x7d"
  | .unreadable => "null"

def prettyItems (depth : Nat) : List Json → String
  | [] => ""
  | v :: vs => "," ++ lineBreak depth ++ prettyAt depth v ++ prettyItems depth vs

def prettyFields (depth : Nat) : List (String × Json) → String
  | [] => ""
  | (key, v) :: fs =>
    "," ++ lineBreak depth ++ quote key ++ ": " ++ prettyAt depth v ++ prettyFields depth fs

end

def pretty (v : Json) : String :=
  prettyAt 0 v

end ApiContract.Json
