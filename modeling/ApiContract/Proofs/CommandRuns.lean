import ApiContract.CommandLine
import ApiContract.Proofs.Arguments
import ApiContract.Proofs.Generation

set_option autoImplicit false

namespace ApiContract

open CommandLine

namespace FileTree

def report [Network] [Wording] (t : FileTree) (args : List String) : Report × FileTree :=
  (CommandLine.run args : StateM FileTree Report) t

section Ends

variable {α : Type} {t after : FileTree} [Wording]

omit [Wording] in
theorem ends_liftExcept (outcome : Except Failure α) :
    t.ends (liftExcept outcome) = (outcome, t) := by
  cases outcome <;> rfl

theorem ends_trying (message : String) (action : ExceptT Error (StateM FileTree) α) :
    t.ends (trying message action) =
      ((t.runs action).1.mapError fun e => ⟨message, causes e⟩, (t.runs action).2) :=
  rfl

theorem ends_trying_eq_ok {message : String} {action : ExceptT Error (StateM FileTree) α} {a : α} :
    t.ends (trying message action) = (.ok a, after) ↔ t.runs action = (.ok a, after) := by
  rw [ends_trying]
  rcases t.runs action with ⟨⟨⟩ | ⟨⟩, between⟩ <;> simp [Except.mapError]

end Ends

section Report

variable [Network] [Wording] {t after : FileTree} {args : List String} {command : Command}

theorem report_of_command (given : Command.ofArguments? args = .ok command) :
    t.report args =
      match t.ends (runCommand command) with
      | (.ok output, after) => ({ output }, after)
      | (.error failure, after) => ({ code := 1, complaint := failure.text }, after) := by
  rcases ended : t.ends (runCommand command) with ⟨outcome, between⟩
  have run : ExceptT.run (runCommand command : ExceptT Failure (StateM FileTree) String) t =
      (outcome, between) := ended
  simp only [report, CommandLine.run, given, bind, StateT.bind, run]
  cases outcome <;> rfl

theorem report_succeeds {report : Report} (given : Command.ofArguments? args = .ok command)
    (run : t.report args = (report, after)) (succeeds : report.code = 0) :
    ∃ output, t.ends (runCommand command) = (.ok output, after) ∧ report = { output } := by
  rw [report_of_command given] at run
  split at run
  case h_1 output between ended =>
    cases run
    exact ⟨output, ended, rfl⟩
  case h_2 failure between ended =>
    cases run
    simp at succeeds

end Report

end FileTree

theorem addSelection_empty (s : Selection) : addSelection {} s = s := by
  simp [addSelection]

def CommandLine.GenerateArguments.targetOver [Wording] (args : GenerateArguments) (start : Config) :
    Except Failure String :=
  match args.targetName with
  | some name => CommandLine.targetName name
  | none => .ok start.targetName

def CommandLine.GenerateArguments.over (args : GenerateArguments) (start : Config)
    (target : String) : Config where
  projectName := args.projectName.getD start.projectName
  contractPath := args.contractPath.getD start.contractPath
  outputDirectory := args.outputDirectory.getD start.outputDirectory
  targetName := target
  selection := addSelection start.selection args.selection

section Commands

variable {t after : FileTree} {c : Config} {args : GenerateArguments} [Wording]

theorem ends_config_of_start {start : Config}
    (started : t.ends (startingConfig args) = (.ok start, after)) :
    t.ends (config args) = ((args.targetOver start).map (args.over start), after) := by
  rw [config, FileTree.ends_bind, started, GenerateArguments.targetOver]
  cases args.targetName with
  | none => rfl
  | some name =>
    simp only [FileTree.ends_bind, FileTree.ends_liftExcept]
    cases targetName name <;> rfl

theorem ends_config_of_arguments {contractPath : String} (unconfigured : args.configPath = none)
    (located : args.contractPath = some contractPath)
    (run : t.ends (config args) = (.ok c, after)) :
    after = t ∧ c.contractPath = contractPath ∧ c.selection = args.selection ∧
      c.outputDirectory = args.outputDirectory.getD (args.projectName.getD "ds3_sdk") := by
  obtain ⟨start, between, started, -⟩ := FileTree.ends_bind_eq_ok.mp run
  rw [ends_config_of_start started] at run
  rw [startingConfig, unconfigured, located] at started
  cases started
  revert run
  cases args.targetOver _ with
  | error e => simp [Except.map]
  | ok target =>
    rintro ⟨⟩
    simp [GenerateArguments.over, located, addSelection_empty]

variable [Network]

omit [Wording] in
theorem Config.runs_resolve_congr {d : Config} (location : c.contractPath = d.contractPath)
    (selection : c.selection = d.selection) : t.runs c.resolve = t.runs d.resolve := by
  rw [Config.runs_resolve, Config.runs_resolve, location, selection]

theorem ends_generate_eq_ok {output : String} :
    t.ends (runCommand (.generate args)) = (.ok output, after) ↔
      ∃ c between summary, t.ends (config args) = (.ok c, between) ∧
        between.runs c.generate = (.ok summary, after) ∧ output = summaryLine summary := by
  simp only [runCommand, FileTree.ends_bind_eq_ok, FileTree.ends_trying_eq_ok, FileTree.ends_pure]
  constructor
  · rintro ⟨c, between, configured, summary, done, generated, told⟩
    cases told
    exact ⟨c, between, summary, configured, generated, rfl⟩
  · rintro ⟨c, between, summary, configured, generated, rfl⟩
    exact ⟨c, between, configured, summary, after, generated, rfl⟩

theorem ends_inspect_of_resolved {model : Model} (asJson : Bool)
    (resolved : t.runs c.resolve = (.ok model, t)) :
    t.ends (runCommand (.inspect ⟨c.contractPath, asJson, c.selection⟩)) =
      (.ok (if asJson then model.toJson.pretty ++ "\n" else modelLines model), t) := by
  rw [runCommand, FileTree.ends_bind_eq_ok]
  refine ⟨model, t, FileTree.ends_trying_eq_ok.mpr ?_, rfl⟩
  rw [← resolved]
  exact Config.runs_resolve_congr rfl rfl

end Commands

/-- The lines of a model before the last, which tells its size. -/
def requestLines (model : Model) : List String :=
  model.requests.map fun t =>
    t.request.name ++ "\t" ++ if t.tags.isEmpty then "-" else ", ".intercalate t.tags

theorem modelLines_eq (model : Model) :
    modelLines model =
      String.join ((requestLines model).map (· ++ "\n")) ++ toString model.requests.length ++
        " requests, " ++ toString model.types.size ++ " types\n" := by
  simp [modelLines, requestLines, Function.comp_def]

/-- A look at a model prints what a run with the same contract and selection has written, or ends in
a line with the numbers that the run tells. -/
theorem inspect_tells_generated [Network] [Wording] {t after : FileTree} {report : Report}
    {generateArgs : List String} {args : GenerateArguments} {contractPath : String}
    (generates : Command.ofArguments? generateArgs = .ok (.generate args))
    (unconfigured : args.configPath = none) (located : args.contractPath = some contractPath)
    (run : t.report generateArgs = (report, after)) (succeeds : report.code = 0) :
    (∀ asJson, ∃ lookArgs, Command.ofArguments? lookArgs =
        .ok (.inspect ⟨contractPath, asJson, args.selection⟩)) ∧
      ∃ (directory text : String) (requests types : Nat) (lines : List String),
        directory = args.outputDirectory.getD (args.projectName.getD "ds3_sdk") ∧
        after.read (FilePath.child directory "resolved_model.json") = .ok text ∧
        report.output = "✅ Resolved " ++ toString requests ++ " requests and " ++ toString types ++
          " types into " ++ directory ++ "\n" ∧
        (∀ jsonArgs, Command.ofArguments? jsonArgs =
            .ok (.inspect ⟨contractPath, true, args.selection⟩) →
          t.report jsonArgs = ({ code := 0, output := text ++ "\n", complaint := "" }, t)) ∧
        ∀ linesArgs, Command.ofArguments? linesArgs =
            .ok (.inspect ⟨contractPath, false, args.selection⟩) →
          t.report linesArgs = ({
            code := 0
            output := String.join (lines.map (· ++ "\n")) ++ toString requests ++ " requests, " ++
              toString types ++ " types\n"
            complaint := "" }, t) := by
  obtain ⟨output, ended, rfl⟩ := FileTree.report_succeeds generates run succeeds
  obtain ⟨c, between, summary, configured, generated, rfl⟩ := ends_generate_eq_ok.mp ended
  obtain ⟨rfl, rfl, selection, directory⟩ :=
    ends_config_of_arguments unconfigured located configured
  obtain
    ⟨model, contexts, made, half, prepared, -, modelPut, contextsPut, requests, types, place⟩ :=
    Config.generate_eq_ok generated
  -- A look has its own configuration, which has only the contract and the selection in common.
  have inspected (asJson : Bool) := ends_inspect_of_resolved asJson
    (Config.runs_resolve_eq_iff.mpr ⟨prepared.resolved, rfl⟩)
  rw [selection] at inspected
  refine ⟨fun asJson => ⟨_, ofArguments?_look c.contractPath asJson args.selection⟩,
    c.outputDirectory, model.toJson.pretty, model.requests.length, model.types.size,
    requestLines model, directory, Config.read_modelFile modelPut contextsPut, ?told, ?json, ?lines⟩
  case told =>
    rw [← requests, ← types, ← place]
    rfl
  case json =>
    intro jsonArgs asJson
    rw [FileTree.report_of_command asJson, inspected]
    rfl
  case lines =>
    intro linesArgs asLines
    rw [FileTree.report_of_command asLines, inspected, ← modelLines_eq]
    rfl

def sharedArguments : List String :=
  ["--contract-path", "/api/contract.json", "--include=GetTapeRequest"]

def tapeSelection : Selection := { included := ["GetTapeRequest"] }

theorem inspect_tells_generated_apiTree :
    let told := "✅ Resolved 1 requests and 0 types into /api\n"
    ∃ (after : FileTree) (text : String) (requests types : Nat) (lines : List String),
      Config.apiTree.report ("generate" :: "--output-dir=/api" :: sharedArguments) =
        ({ output := told }, after) ∧
      told = "✅ Resolved " ++ toString requests ++ " requests and " ++ toString types ++
        " types into " ++ "/api" ++ "\n" ∧
      after.read (FilePath.child "/api" "resolved_model.json") = .ok text ∧
      Config.apiTree.report ("inspect" :: "--json" :: sharedArguments) =
        ({ code := 0, output := text ++ "\n", complaint := "" }, Config.apiTree) ∧
      Config.apiTree.report ("inspect" :: sharedArguments) = ({
        code := 0
        output := String.join (lines.map (· ++ "\n")) ++ toString requests ++ " requests, " ++
          toString types ++ " types\n"
        complaint := "" }, Config.apiTree) := by
  intro told
  have generates : Command.ofArguments? ("generate" :: "--output-dir=/api" :: sharedArguments) =
      .ok (.generate
        ⟨none, none, some "/api/contract.json", some "/api", none, tapeSelection⟩) := by
    rfl
  have asJson : Command.ofArguments? ("inspect" :: "--json" :: sharedArguments) =
      .ok (.inspect ⟨"/api/contract.json", true, tapeSelection⟩) := by
    rfl
  have asLines : Command.ofArguments? ("inspect" :: sharedArguments) =
      .ok (.inspect ⟨"/api/contract.json", false, tapeSelection⟩) := by
    rfl
  have succeeds : (Config.apiTree.report ("generate" :: "--output-dir=/api" :: sharedArguments)).1 =
      { output := told } := by
    decide +kernel
  obtain ⟨-, -, text, requests, types, lines, rfl, written, counts, json, plain⟩ :=
    inspect_tells_generated generates rfl rfl (Prod.ext succeeds rfl) rfl
  exact ⟨_, text, requests, types, lines, Prod.ext succeeds rfl, counts, written,
    json _ asJson, plain _ asLines⟩

end ApiContract
