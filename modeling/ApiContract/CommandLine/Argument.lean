set_option autoImplicit false

namespace ApiContract.CommandLine

inductive Arity where
  | flag
  | value
  -- A path, which must not be empty.
  | path
  -- A value; the option may be given more than once.
  | values
  deriving DecidableEq

abbrev Options := List (String × Arity)

-- An option that has been given; a flag has an empty value.
structure Given where
  name : String
  value : String
  deriving DecidableEq

inductive Stop where
  | help (detailed : Bool)
  | misuse
  deriving DecidableEq

def splitOption (option : List Char) : String × Option String :=
  let name := option.takeWhile (· != '=')
  match option.drop name.length with
  | [] => (String.ofList name, none)
  | _ :: value => (String.ofList name, some (String.ofList value))

def isValue (arg : String) : Bool :=
  match arg.toList with
  | '-' :: _ :: _ => false
  | _ => true

def give (arity : Arity) (name value : String) (given : List Given) : Except Stop (List Given) :=
  if arity ≠ .values && given.any (·.name == name) then .error .misuse
  else if arity = .path && value = "" then .error .misuse
  else .ok (given ++ [⟨name, value⟩])

def readArguments (options : Options) (given : List Given) :
    List String → Except Stop (List Given)
  | [] => .ok given
  | arg :: rest =>
    match arg.toList with
    -- After two dashes alone nothing is an option, and there is nothing else to give.
    | ['-', '-'] => if rest.isEmpty then .ok given else .error .misuse
    | '-' :: '-' :: option =>
      let (name, joined?) := splitOption option
      match options.lookup name, joined?, rest with
      | none, none, _ => .error (if name = "help" then .help true else .misuse)
      | none, some _, _ => .error .misuse
      | some .flag, none, rest => do
        let given ← give .flag name "" given
        readArguments options given rest
      | some .flag, some _, _ => .error .misuse
      | some arity, some value, rest => do
        let given ← give arity name value given
        readArguments options given rest
      | some arity, none, value :: rest =>
        if isValue value then do
          let given ← give arity name value given
          readArguments options given rest
        else .error .misuse
      | some _, none, [] => .error .misuse
    | '-' :: 'h' :: _ => .error (.help false)
    | _ => .error .misuse

def flagOf (given : List Given) (name : String) : Bool :=
  given.any (·.name == name)

def valueOf? (given : List Given) (name : String) : Option String :=
  (given.find? (·.name == name)).map (·.value)

def valuesOf (given : List Given) (name : String) : List String :=
  (given.filter (·.name == name)).map (·.value)

end ApiContract.CommandLine
