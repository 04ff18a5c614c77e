import ApiContract.Proofs.Arguments
import ApiContract.Proofs.CommandRuns

set_option autoImplicit false

namespace ApiContract

open CommandLine

theorem Target.ofText?_text (target : Target) : ofText? target.text = .ok target := by
  cases target <;> rfl

section Configuration

variable {t : FileTree} {c : Config} {path : String} {target : Target}

theorem Config.runs_load_file (path : String) :
    t.runs (Config.load path) = ((t.runs (Config.load path)).1, t) := by
  rw [Config.load, FileTree.runs_bind, FileTree.runs_readText]
  cases t.read path <;> simp [Except.mapError]

theorem Config.path_ne_empty (loaded : (t.runs (Config.load path)).1 = .ok c) : path ≠ "" := by
  rintro rfl
  have missing : t.read "" = .error .notFound := rfl
  simp [Config.load, FileTree.runs_bind, missing, Except.mapError] at loaded

theorem over_ofFile (path : String) (c : Config) :
    (GenerateArguments.ofFile path).over c c.targetName = c := by
  simp [GenerateArguments.over, GenerateArguments.ofFile, addSelection]

theorem over_ofConfig (c : Config) (start : Config) (unselected : start.selection = {})
    (target : String) :
    (GenerateArguments.ofConfig c).over start target = { c with targetName := target } := by
  simp [GenerateArguments.over, GenerateArguments.ofConfig, unselected, addSelection_empty]

variable [Wording]

theorem ends_config_ofFile (loaded : (t.runs (Config.load path)).1 = .ok c) :
    t.ends (config (.ofFile path)) = (.ok c, t) := by
  have started : t.ends (startingConfig (.ofFile path)) = (.ok c, t) :=
    FileTree.ends_trying_eq_ok.mpr (by rw [Config.runs_load_file, loaded])
  have untargeted : (GenerateArguments.ofFile path).targetOver c = .ok c.targetName := rfl
  rw [ends_config_of_start started, untargeted, Except.map, over_ofFile]

theorem ends_config_ofConfig (known : Target.ofText? c.targetName = .ok target) :
    t.ends (config (.ofConfig c)) = (.ok { c with targetName := target.text }, t) := by
  -- Of the configuration made for the contract only the empty selection stays.
  obtain ⟨start, unselected, started⟩ : ∃ start : Config, start.selection = {} ∧
      t.ends (startingConfig (.ofConfig c)) = (.ok start, t) := ⟨_, rfl, rfl⟩
  have targeted : (GenerateArguments.ofConfig c).targetOver start = .ok target.text := by
    simp [GenerateArguments.targetOver, GenerateArguments.ofConfig, targetName, known]
  rw [ends_config_of_start started, targeted, Except.map, over_ofConfig c start unselected]

variable [Network]

omit [Wording] in
theorem Config.runs_generate_of_known (known : Target.ofText? c.targetName = .ok target) :
    t.runs { c with targetName := target.text }.generate = t.runs c.generate := by
  rw [generate, generate, FileTree.runs_bind, FileTree.runs_bind, FileTree.runs_liftExcept,
    FileTree.runs_liftExcept, known, Target.ofText?_text]
  rfl

def Config.reportIn (c : Config) (t : FileTree) : Report × FileTree :=
  match t.runs c.generate with
  | (.ok summary, after) => ({ output := summaryLine summary }, after)
  | (.error e, after) =>
    ({ code := 1, complaint := Failure.text ⟨"Failed to generate", causes e⟩ }, after)

theorem report_of_configured {args : List String} {generation : GenerateArguments}
    (given : Command.ofArguments? args = .ok (.generate generation))
    (configured : t.ends (config generation) = (.ok c, t)) : t.report args = c.reportIn t := by
  rw [FileTree.report_of_command given, runCommand, FileTree.ends_bind, configured, Config.reportIn]
  simp only [FileTree.ends_bind, FileTree.ends_trying]
  rcases t.runs c.generate with ⟨⟨⟩ | ⟨⟩, after⟩ <;> rfl

theorem Config.reportIn_of_known (known : Target.ofText? c.targetName = .ok target) :
    { c with targetName := target.text }.reportIn t = c.reportIn t := by
  rw [reportIn, reportIn, runs_generate_of_known known]

end Configuration

/-- A configuration can be given in a file or, if it has a place for the results, option by option;
either way the run is the one it asks for. -/
theorem report_of_config_eq [Network] [Wording] {t : FileTree} {path : String} {c : Config}
    {target : Target} (loaded : (t.runs (Config.load path)).1 = .ok c)
    (known : Target.ofText? c.targetName = .ok target) :
    (∃ args, Command.ofArguments? args = .ok (.generate (.ofFile path))) ∧
      (c.outputDirectory ≠ "" →
        ∃ args, Command.ofArguments? args = .ok (.generate (.ofConfig c))) ∧
      ∀ fileArgs args, Command.ofArguments? fileArgs = .ok (.generate (.ofFile path)) →
        Command.ofArguments? args = .ok (.generate (.ofConfig c)) →
        t.report fileArgs = t.report args ∧ t.report args = c.reportIn t := by
  refine ⟨⟨_, ofArguments?_file (Config.path_ne_empty loaded)⟩,
    fun placed => ⟨_, ofArguments?_config placed⟩, fun fileArgs args inFile given => ?_⟩
  have fromFile : t.report fileArgs = c.reportIn t :=
    report_of_configured inFile (ends_config_ofFile loaded)
  have fromArguments : t.report args = c.reportIn t :=
    calc t.report args = { c with targetName := target.text }.reportIn t :=
          report_of_configured given (ends_config_ofConfig known)
      _ = c.reportIn t := Config.reportIn_of_known known
  exact ⟨fromFile.trans fromArguments.symm, fromArguments⟩

def configuredTree : FileTree :=
  .directory [
    ("run.yaml", .file (some <|
      "project_name: api\ncontract_path: /api/contract.json\noutput_dir: /api\n" ++
      "target_kind: Generic\ninclude_requests: GetTapeRequest\n")),
    ("api", .directory [("contract.json", .file (some <|
      "\x7b\"requests\":[\x7b\"name\":\"GetTapeRequest\"," ++
      "\"classification\":\"spectrads3\"\x7d]\x7d"))])]

theorem report_of_config_eq_configuredTree :
    let inFile := ["generate", "--config", "/run.yaml"]
    let given := ["generate", "--output-dir=/api", "--target-kind=Generic", "--project-name=api",
      "--contract-path", "/api/contract.json", "--include=GetTapeRequest"]
    (configuredTree.report inFile).1 =
        { output := "✅ Resolved 1 requests and 0 types into /api\n" } ∧
      configuredTree.report inFile = configuredTree.report given := by
  intro inFile given
  have loaded : (configuredTree.runs (Config.load "/run.yaml")).1 = .ok {
      projectName := "api"
      contractPath := "/api/contract.json"
      outputDirectory := "/api"
      targetName := "Generic"
      selection := tapeSelection } := by
    decide +kernel
  have known : Target.ofText? "Generic" = .ok .generic := by decide +kernel
  have told : (configuredTree.report given).1 =
      { output := "✅ Resolved 1 requests and 0 types into /api\n" } := by
    decide +kernel
  have same : configuredTree.report inFile = configuredTree.report given :=
    ((report_of_config_eq loaded known).2.2 inFile given rfl rfl).1
  exact ⟨by rw [same, told], same⟩

end ApiContract
