import ApiContract.CommandLine.Argument
import ApiContract.Resolve

set_option autoImplicit false

namespace ApiContract.CommandLine

structure GenerateArguments where
  configPath : Option String
  projectName : Option String
  contractPath : Option String
  outputDirectory : Option String
  targetName : Option String
  selection : Selection
  deriving DecidableEq

structure InspectArguments where
  contractPath : String
  asJson : Bool
  selection : Selection
  deriving DecidableEq

inductive Topic where
  | program
  | generate
  | inspect
  | help
  deriving DecidableEq

inductive Command where
  | generate (arguments : GenerateArguments)
  | inspect (arguments : InspectArguments)
  | help (topic : Topic) (detailed : Bool)
  | version
  deriving DecidableEq

def selectionOptions : Options :=
  [("include-internal", .flag), ("include", .values), ("exclude", .values)]

def selectionOf (given : List Given) : Selection where
  includeInternal := flagOf given "include-internal"
  included := valuesOf given "include"
  excluded := valuesOf given "exclude"

def generateOptions : Options :=
  [("config", .path), ("project-name", .value), ("contract-path", .value), ("output-dir", .path),
    ("target-kind", .value)] ++ selectionOptions

def inspectOptions : Options :=
  [("contract-path", .value), ("json", .flag)] ++ selectionOptions

def Topic.ofWords? : List String → Option Topic
  | [] => some .program
  | ["generate"] => some .generate
  | ["inspect"] => some .inspect
  | ["help"] => some .help
  | _ => none

namespace Command

def ofGenerate? (args : List String) : Except Stop Command := do
  let given ← readArguments generateOptions [] args
  pure (.generate {
    configPath := valueOf? given "config"
    projectName := valueOf? given "project-name"
    contractPath := valueOf? given "contract-path"
    outputDirectory := valueOf? given "output-dir"
    targetName := valueOf? given "target-kind"
    selection := selectionOf given })

def ofInspect? (args : List String) : Except Stop Command := do
  let given ← readArguments inspectOptions [] args
  match valueOf? given "contract-path" with
  | some contractPath =>
    pure (.inspect {
      contractPath, asJson := flagOf given "json", selection := selectionOf given })
  | none => .error .misuse

/-- Asked for among the arguments of a command, help is on the command. -/
def orHelp (topic : Topic) (command : Except Stop Command) : Except Stop Command :=
  match command with
  | .error (.help detailed) => .ok (.help topic detailed)
  | _ => command

def ofArguments? (args : List String) : Except Stop Command :=
  match args with
  | "generate" :: rest => orHelp .generate (ofGenerate? rest)
  | "inspect" :: rest => orHelp .inspect (ofInspect? rest)
  | "help" :: rest =>
    match Topic.ofWords? rest with
    | some topic => .ok (.help topic true)
    | none => .error .misuse
  | "--version" :: _ => .ok .version
  | "--help" :: _ => .ok (.help .program true)
  | arg :: _ =>
    match arg.toList with
    | '-' :: 'V' :: _ => .ok .version
    | '-' :: 'h' :: _ => .ok (.help .program false)
    | _ => .error .misuse
  | [] => .error .misuse

end Command

end ApiContract.CommandLine
