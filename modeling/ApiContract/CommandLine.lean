import ApiContract.CommandLine.Help
import ApiContract.Generate

set_option autoImplicit false

namespace ApiContract.CommandLine

/-- What was tried in vain, and the causes, each that of the one before. -/
structure Failure where
  message : String
  causes : List String := []
  deriving DecidableEq

namespace Failure

def indent (first others cause : String) : String :=
  first ++ ("\n" ++ others).intercalate (cause.splitToList (· == '\n'))

-- The number of a cause, up to five columns wide.
def numbered (cause : String) (n : Nat) : String :=
  let digits := toString n
  indent ("".pushn ' ' (5 - digits.length) ++ digits ++ ": ") "       " cause

def causeLines : List String → List String
  | [cause] => [indent "    " "    " cause]
  | causes => causes.mapIdx fun n cause => numbered cause n

def text (f : Failure) : String :=
  "Error: " ++ f.message ++
    (if f.causes.isEmpty then ""
      else "\n\nCaused by:\n" ++ "\n".intercalate (causeLines f.causes)) ++ "\n"

end Failure

variable [Wording]

def causes (e : Error) : List String :=
  match e with
  | .file cause => [e.message, cause.message]
  | @Error.yaml text => [e.message, Wording.yamlConfig text]
  | @Error.toml text => [e.message, Wording.tomlConfig text]
  | _ => [e.message]

variable {m : Type → Type} [Monad m] [Storage m] [Network]

def trying {α : Type} (message : String) (run : ExceptT Error m α) : ExceptT Failure m α :=
  ExceptT.adapt (fun e => ⟨message, causes e⟩) run

structure Report where
  code : UInt32 := 0
  output : String := ""
  complaint : String := ""
  deriving DecidableEq

def startingConfig (args : GenerateArguments) : ExceptT Failure m Config :=
  match args.configPath, args.contractPath with
  | some path, _ => trying ("Failed to load config " ++ path) (Config.load path)
  | none, some contractPath =>
    let projectName := args.projectName.getD "ds3_sdk"
    pure { projectName, contractPath, outputDirectory := projectName }
  | none, none => throw ⟨"Either --config or --contract-path is required", []⟩

def targetName (name : String) : Except Failure String :=
  match Target.ofText? name with
  | .ok target => .ok target.text
  | .error e => .error ⟨"Invalid target '" ++ name ++ "': " ++ e.message, []⟩

def addSelection (s t : Selection) : Selection where
  includeInternal := s.includeInternal || t.includeInternal
  included := s.included ++ t.included
  excluded := s.excluded ++ t.excluded

/-- The configuration of a run; arguments go before what the file says. -/
def config (args : GenerateArguments) : ExceptT Failure m Config := do
  let start ← startingConfig args
  let target ← match args.targetName with
    | some name => liftExcept (targetName name)
    | none => pure start.targetName
  pure {
    projectName := args.projectName.getD start.projectName
    contractPath := args.contractPath.getD start.contractPath
    outputDirectory := args.outputDirectory.getD start.outputDirectory
    targetName := target
    selection := addSelection start.selection args.selection }

def summaryLine (s : Summary) : String :=
  "✅ Resolved " ++ toString s.requests ++ " requests and " ++ toString s.types ++
    " types into " ++ s.outputDirectory ++ "\n"

def modelLines (model : Model) : String :=
  String.join (model.requests.map fun t =>
    t.request.name ++ "\t" ++ (if t.tags.isEmpty then "-" else ", ".intercalate t.tags) ++ "\n") ++
  toString model.requests.length ++ " requests, " ++ toString model.types.size ++ " types\n"

def versionLine : String := "contractgen 0.1.0\n"

def runCommand : Command → ExceptT Failure m String
  | .generate args => do
    let config ← config args
    let summary ← trying "Failed to generate" config.generate
    pure (summaryLine summary)
  | .inspect args => do
    let config : Config := {
      projectName := "ds3_sdk"
      contractPath := args.contractPath
      outputDirectory := ""
      selection := args.selection }
    let model ← trying ("Failed to resolve " ++ args.contractPath) config.resolve
    pure (if args.asJson then model.toJson.pretty ++ "\n" else modelLines model)
  | .help topic detailed => pure (topic.text detailed)
  | .version => pure versionLine

def run (args : List String) : m Report :=
  match Command.ofArguments? args with
  | .error _ =>
    -- Where nothing at all is asked for, help is offered in the place of a complaint.
    let complaint := if args.isEmpty then Topic.program.text false else Wording.arguments args
    pure { code := 2, complaint }
  | .ok command => do
    match ← (runCommand command).run with
    | .ok output => pure { output }
    | .error failure => pure { code := 1, complaint := failure.text }

end ApiContract.CommandLine
