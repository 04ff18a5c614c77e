import ApiContract.Generate
import ApiContract.Proofs.Contexts
import ApiContract.Proofs.Decoding
import ApiContract.Proofs.Places
import ApiContract.Proofs.PrintedContexts

set_option autoImplicit false

namespace ApiContract

namespace FileTree

def ends {ε α : Type} (t : FileTree) (action : ExceptT ε (StateM FileTree) α) :
    Except ε α × FileTree :=
  action.run t

section Ends

variable {ε α β : Type} {t after : FileTree} {action : ExceptT ε (StateM FileTree) α}
  {rest : α → ExceptT ε (StateM FileTree) β}

theorem ends_bind :
    t.ends (action >>= rest) =
      match t.ends action with
      | (.ok a, between) => between.ends (rest a)
      | (.error e, between) => (.error e, between) := by
  unfold ends ExceptT.run
  simp only [bind, ExceptT.bind, ExceptT.mk, StateT.bind, ExceptT.bindCont]
  cases action t with
  | mk outcome between => cases outcome <;> rfl

theorem ends_bind_eq_ok {b : β} :
    t.ends (action >>= rest) = (.ok b, after) ↔
      ∃ a between, t.ends action = (.ok a, between) ∧ between.ends (rest a) = (.ok b, after) := by
  rw [ends_bind]
  split
  case h_1 a between ended => simp [ended]
  case h_2 e between ended => simp [ended]

theorem ends_pure (a : α) : t.ends (pure a : ExceptT ε (StateM FileTree) α) = (.ok a, t) :=
  rfl

end Ends

def runs {α : Type} (t : FileTree) (action : ExceptT Error (StateM FileTree) α) :
    Except Error α × FileTree :=
  action.run t

section Runs

variable {α β : Type} {t after : FileTree} {action : ExceptT Error (StateM FileTree) α}
  {rest : α → ExceptT Error (StateM FileTree) β}

theorem runs_eq_ends : t.runs action = t.ends action :=
  rfl

theorem runs_bind :
    t.runs (action >>= rest) =
      match t.runs action with
      | (.ok a, between) => between.runs (rest a)
      | (.error e, between) => (.error e, between) := by
  rw [runs_eq_ends, ends_bind, runs_eq_ends]
  rcases t.ends action with ⟨⟨⟩ | ⟨⟩, between⟩ <;> rfl

theorem runs_bind_eq_ok {b : β} :
    t.runs (action >>= rest) = (.ok b, after) ↔
      ∃ a between, t.runs action = (.ok a, between) ∧ between.runs (rest a) = (.ok b, after) :=
  ends_bind_eq_ok

theorem runs_bind_eq_error {e : Error} :
    t.runs (action >>= rest) = (.error e, after) ↔
      t.runs action = (.error e, after) ∨
        ∃ a between, t.runs action = (.ok a, between) ∧
          between.runs (rest a) = (.error e, after) := by
  rw [runs_bind]
  split
  case h_1 a between ended => simp [ended]
  case h_2 e between ended => simp [ended]

@[simp] theorem runs_pure (a : α) : t.runs (pure a) = (.ok a, t) :=
  rfl

@[simp] theorem runs_liftExcept (outcome : Except Error α) :
    t.runs (liftExcept outcome) = (outcome, t) := by
  cases outcome <;> rfl

theorem runs_liftExcept_eq_iff {outcome ended : Except Error α} :
    t.runs (liftExcept outcome) = (ended, after) ↔ outcome = ended ∧ t = after := by
  rw [runs_liftExcept, Prod.mk.injEq]

theorem runs_attempt (operation : StateM FileTree (Except FileError α)) :
    t.runs (Storage.attempt operation) = ((operation t).1.mapError .file, (operation t).2) :=
  rfl

@[simp] theorem runs_readText (path : String) :
    t.runs (Storage.readText path) = ((t.read path).mapError .file, t) :=
  rfl

theorem runs_ensureDirectory (path : String) :
    t.runs (Storage.ensureDirectory path) =
      ((t.makeDirectory path).1.mapError .file, (t.makeDirectory path).2) :=
  rfl

theorem storage_write (path text : String) :
    (Storage.write path text : StateM FileTree (Except FileError Unit)) t =
      match t.write path text with
      | .ok written => (.ok (), written)
      | .error cause => (.error cause, t) := by
  unfold Storage.write instStorageStateM
  simp only [bind, StateT.bind, get, getThe, MonadStateOf.get, StateT.get, pure]
  cases t.write path text <;> rfl

theorem runs_writeText (path text : String) :
    t.runs (Storage.writeText path text) =
      match t.write path text with
      | .ok written => (.ok (), written)
      | .error cause => (.error (.file cause), t) := by
  rw [Storage.writeText, runs_attempt, storage_write]
  cases t.write path text <;> rfl

theorem runs_ensureDirectory_eq_ok {path : String} {u : Unit} :
    t.runs (Storage.ensureDirectory path) = (.ok u, after) ↔
      t.makeDirectory path = (.ok (), after) := by
  rw [runs_ensureDirectory]
  rcases t.makeDirectory path with ⟨⟨⟩ | ⟨⟩, made⟩ <;> simp [Except.mapError]

theorem runs_ensureDirectory_eq_error {path : String} {e : Error} :
    t.runs (Storage.ensureDirectory path) = (.error e, after) ↔
      ∃ cause, e = .file cause ∧ t.makeDirectory path = (.error cause, after) := by
  rw [runs_ensureDirectory]
  rcases t.makeDirectory path with ⟨⟨⟩ | ⟨⟩, made⟩ <;> simp [Except.mapError, eq_comm]

theorem runs_writeText_eq_ok {path text : String} {u : Unit} :
    t.runs (Storage.writeText path text) = (.ok u, after) ↔ t.write path text = .ok after := by
  rw [runs_writeText]
  cases t.write path text <;> simp

theorem runs_writeText_eq_error {path text : String} {e : Error} :
    t.runs (Storage.writeText path text) = (.error e, after) ↔
      ∃ cause, e = .file cause ∧ t.write path text = .error cause ∧ t = after := by
  rw [runs_writeText]
  cases t.write path text <;> simp [eq_comm]

end Runs

end FileTree

namespace Json

def size? : Json → Option Nat
  | .arr items => some items.length
  | .obj fields => some fields.length
  | _ => none

def countAt? (key : String) : Json → Option Nat
  | .obj fields => (fields.lookup key).bind size?
  | _ => none

end Json

namespace FileTree

def valueAt? (t : FileTree) (place : List String) : Option Json :=
  match t.nodeAt? place with
  | some (.file (some text)) => Json.parse? text
  | _ => none

theorem valueAt?_of_pretty {t : FileTree} {place : List String} {v : Json}
    (written : t.nodeAt? place = some (.file (some v.pretty))) (readable : v.Readable) :
    t.valueAt? place = some v := by
  rw [valueAt?, written]
  exact Json.parse?_pretty readable

end FileTree

theorem Model.countAt?_toJson (m : Model) :
    m.toJson.countAt? "requests" = some m.requests.length ∧
      m.toJson.countAt? "types" = some m.types.size := by
  constructor <;> simp [Model.toJson, Catalog.toJson, Catalog.size, Json.countAt?, Json.size?,
    List.lookup_cons]

theorem Contexts.countAt?_toJson (c : Contexts) :
    c.toJson.countAt? "requests" = some c.requestsJson.length ∧
      c.toJson.countAt? "types" = some c.typesJson.length := by
  constructor <;> simp [Contexts.toJson, Json.countAt?, Json.size?, List.lookup_cons]

theorem ContextSet.length_of_build {R T : Type} {requestContext : TaggedRequest → Except Error R}
    {typeContext : TypeDefinition → Except Error T} {name : R → String} {m : Model}
    {contexts : ContextSet R T} (built : build requestContext typeContext name m = .ok contexts) :
    contexts.requests.length = m.requests.length ∧ contexts.types.length = m.types.size := by
  obtain ⟨requests, each, defined, sorted⟩ := build_eq_ok_iff.mp built
  constructor
  · rw [sorted, List.length_mergeSort, each.length_eq]
  · rw [← defined.length_eq, Catalog.definitions, List.length_map, Catalog.size]

theorem Model.length_of_contexts {m : Model} {target : Target} {contexts : Contexts}
    (built : m.contexts target = .ok contexts) :
    contexts.requestsJson.length = m.requests.length ∧
      contexts.typesJson.length = m.types.size := by
  cases target <;>
    · obtain ⟨set, complete, returned⟩ := bind_eq_ok.mp built
      obtain rfl := Except.ok.inj returned
      simpa [Contexts.requestsJson, Contexts.typesJson] using ContextSet.length_of_build complete

namespace Config

theorem plain_modelFile : FilePath.Plain modelFile := by
  constructor <;> decide

theorem plain_contextsFile : FilePath.Plain contextsFile := by
  constructor <;> decide

variable {c : Config} {t after : FileTree}

def modelPlace (c : Config) : List String :=
  FileTree.lead c.outputDirectory ++ [modelFile]

def contextsPlace (c : Config) : List String :=
  FileTree.lead c.outputDirectory ++ [contextsFile]

theorem modelFile_apart (place : List String) : place ++ [modelFile] ≠ place ++ [contextsFile] := by
  simp [modelFile, contextsFile]

/-- Where a run may leave something else than it finds: where its two files are, and where a
directory that they lie in is missing. -/
def Touches (c : Config) (t : FileTree) (place : List String) : Prop :=
  place = c.modelPlace ∨ place = c.contextsPlace ∨
    (place ∈ FileTree.way c.outputDirectory ∧ t.nodeAt? place = none)

theorem nodeAt?_of_writes {made half : FileTree} {modelText contextsText : String}
    (directory : t.makeDirectory c.outputDirectory = (.ok (), made))
    (modelPut : made.write (FilePath.child c.outputDirectory modelFile) modelText = .ok half)
    (contextsPut :
      half.write (FilePath.child c.outputDirectory contextsFile) contextsText = .ok after) :
    after.nodeAt? c.modelPlace = some (.file (some modelText)) ∧
      after.nodeAt? c.contextsPlace = some (.file (some contextsText)) ∧
      (∀ place ∈ FileTree.way c.outputDirectory, after.nodeAt? place = some .directory) ∧
      FileTree.DiffersOnlyAt (c.Touches t) t after := by
  obtain ⟨-, -, first⟩ := FileTree.write_child plain_modelFile modelPut
  obtain ⟨throughout, -, second⟩ := FileTree.write_child plain_contextsFile contextsPut
  refine ⟨?_, ?_, ?_, ?_⟩
  · rw [modelPlace, second, if_neg (modelFile_apart _), first, if_pos rfl]
  · rw [contextsPlace, second, if_pos rfl]
  · intro place onWay
    exact FileTree.directory_of_write plain_contextsFile contextsPut (throughout place onWay)
  · intro place untouched
    simp only [Touches, modelPlace, contextsPlace, not_or] at untouched
    obtain ⟨notModel, notContexts, notMissing⟩ := untouched
    rw [second, if_neg notContexts, first, if_neg notModel]
    exact FileTree.makeDirectory_ok directory place notMissing

-- The model can be read again once the contexts have been written beside it.
theorem read_modelFile {made half : FileTree} {modelText contextsText : String}
    (modelPut : made.write (FilePath.child c.outputDirectory modelFile) modelText = .ok half)
    (contextsPut :
      half.write (FilePath.child c.outputDirectory contextsFile) contextsText = .ok after) :
    after.read (FilePath.child c.outputDirectory modelFile) = .ok modelText := by
  obtain ⟨-, -, first⟩ := FileTree.write_child plain_modelFile modelPut
  obtain ⟨-, -, second⟩ := FileTree.write_child plain_contextsFile contextsPut
  refine FileTree.read_child plain_modelFile modelPut (fun place before => ?_) ?_
  · have between := FileTree.directory_of_write plain_modelFile modelPut before
    exact FileTree.directory_of_write plain_contextsFile contextsPut between
  · rw [second, if_neg (modelFile_apart _), first, if_pos rfl]

inductive FailsWriting (c : Config) (t : FileTree) (model : Model) (contexts : Contexts) :
    FileError → FileTree → Prop
  | directory {cause : FileError} {after : FileTree}
      (refused : t.makeDirectory c.outputDirectory = (.error cause, after)) :
      FailsWriting c t model contexts cause after
  | model {cause : FileError} {made : FileTree}
      (directory : t.makeDirectory c.outputDirectory = (.ok (), made))
      (refused : made.write (FilePath.child c.outputDirectory modelFile) model.toJson.pretty =
        .error cause) :
      FailsWriting c t model contexts cause made
  | contexts {cause : FileError} {made half : FileTree}
      (directory : t.makeDirectory c.outputDirectory = (.ok (), made))
      (modelPut : made.write (FilePath.child c.outputDirectory modelFile) model.toJson.pretty =
        .ok half)
      (refused : half.write (FilePath.child c.outputDirectory contextsFile)
        contexts.toJson.pretty = .error cause) :
      FailsWriting c t model contexts cause half

theorem failsWriting_of_error {α : Type} {result : α} {e : Error} {model : Model}
    {contexts : Contexts}
    (run : t.runs (do
      Storage.ensureDirectory c.outputDirectory
      Storage.writeText (FilePath.child c.outputDirectory modelFile) model.toJson.pretty
      Storage.writeText (FilePath.child c.outputDirectory contextsFile) contexts.toJson.pretty
      pure result) = (.error e, after)) :
    ∃ cause, FailsWriting c t model contexts cause after ∧ e = .file cause := by
  rcases FileTree.runs_bind_eq_error.mp run with failed | ⟨_, made, directory, run⟩
  · obtain ⟨cause, told, refused⟩ := FileTree.runs_ensureDirectory_eq_error.mp failed
    exact ⟨cause, .directory refused, told⟩
  rw [FileTree.runs_ensureDirectory_eq_ok] at directory
  rcases FileTree.runs_bind_eq_error.mp run with failed | ⟨_, half, modelPut, run⟩
  · obtain ⟨cause, told, refused, rfl⟩ := FileTree.runs_writeText_eq_error.mp failed
    exact ⟨cause, .model directory refused, told⟩
  rw [FileTree.runs_writeText_eq_ok] at modelPut
  rcases FileTree.runs_bind_eq_error.mp run with failed | ⟨_, _, -, run⟩
  · obtain ⟨cause, told, refused, rfl⟩ := FileTree.runs_writeText_eq_error.mp failed
    exact ⟨cause, .contexts directory modelPut refused, told⟩
  · simp at run

section Run

variable [Network]

inductive FailsEarly (c : Config) (t : FileTree) : Error → Prop
  | target {e : Error} (unknown : Target.ofText? c.targetName = .error e) : FailsEarly c t e
  | contract {target : Target} {e : Error} (known : Target.ofText? c.targetName = .ok target)
      (missing : (t.runs (Contract.load c.contractPath)).1 = .error e) : FailsEarly c t e
  | resolution {target : Target} {contract : Contract} {e : Error}
      (known : Target.ofText? c.targetName = .ok target)
      (loaded : (t.runs (Contract.load c.contractPath)).1 = .ok contract)
      (unresolved : contract.resolve c.selection = .error e) : FailsEarly c t e
  | contexts {target : Target} {model : Model} {e : Error}
      (known : Target.ofText? c.targetName = .ok target)
      (resolved : (t.runs c.resolve).1 = .ok model)
      (unsuited : model.contexts target = .error e) : FailsEarly c t e

structure Prepared (c : Config) (t : FileTree) (target : Target) (model : Model)
    (contexts : Contexts) : Prop where
  known : Target.ofText? c.targetName = .ok target
  resolved : (t.runs c.resolve).1 = .ok model
  suited : model.contexts target = .ok contexts

/-- What a run that succeeds tells, and what it leaves of a tree of files. The model and all numbers
are those that the texts of the two files are read as. -/
structure Generated (c : Config) (t : FileTree) (summary : Summary) (after : FileTree)
    (model : Model) (contexts : Contexts) : Prop extends
    Prepared c t summary.target model contexts where
  outputDirectory : summary.outputDirectory = c.outputDirectory
  modelWritten : after.nodeAt? c.modelPlace = some (.file (some model.toJson.pretty))
  modelRead : after.valueAt? c.modelPlace = some model.toJson
  modelDecoded : (after.valueAt? c.modelPlace).bind Model.ofDocument? = some model
  modelRequests : (after.valueAt? c.modelPlace).bind (·.countAt? "requests") = some summary.requests
  modelTypes : (after.valueAt? c.modelPlace).bind (·.countAt? "types") = some summary.types
  contextsWritten : after.nodeAt? c.contextsPlace = some (.file (some contexts.toJson.pretty))
  contextsRead : after.valueAt? c.contextsPlace = some contexts.toJson
  contextRequests :
    (after.valueAt? c.contextsPlace).bind (·.countAt? "requests") = some summary.requests
  contextTypes : (after.valueAt? c.contextsPlace).bind (·.countAt? "types") = some summary.types
  directories : ∀ place ∈ FileTree.way c.outputDirectory, after.nodeAt? place = some .directory
  elsewhere : FileTree.DiffersOnlyAt (c.Touches t) t after

theorem runs_load (location : String) :
    t.runs (Contract.load location) = ((t.runs (Contract.load location)).1, t) := by
  unfold Contract.load
  split
  case h_1 => simp
  case h_2 =>
    rw [Contract.loadFile, FileTree.runs_bind, FileTree.runs_readText]
    cases t.read location <;> simp [Except.mapError]

theorem runs_resolve :
    t.runs c.resolve =
      ((t.runs (Contract.load c.contractPath)).1 >>= (·.resolve c.selection), t) := by
  rw [resolve, FileTree.runs_bind, runs_load]
  cases (t.runs (Contract.load c.contractPath)).1 <;> simp [bind, Except.bind]

theorem runs_resolve_eq_iff {outcome : Except Error Model} :
    t.runs c.resolve = (outcome, after) ↔ (t.runs c.resolve).1 = outcome ∧ t = after := by
  rw [runs_resolve, Prod.mk.injEq]

theorem generate_of_failsEarly {e : Error} (fails : FailsEarly c t e) :
    t.runs c.generate = (.error e, t) := by
  have stops {target : Target} (known : Target.ofText? c.targetName = .ok target)
      (unresolved : (t.runs c.resolve).1 = .error e) : t.runs c.generate = (.error e, t) := by
    simp only [generate, FileTree.runs_bind, FileTree.runs_liftExcept, known,
      runs_resolve_eq_iff.mpr ⟨unresolved, rfl⟩]
  cases fails with
  | target unknown => simp only [generate, FileTree.runs_bind, FileTree.runs_liftExcept, unknown]
  | contract known missing => exact stops known (by rw [runs_resolve, missing]; rfl)
  | resolution known loaded unresolved =>
    exact stops known (by rw [runs_resolve, loaded]; exact unresolved)
  | contexts known resolved unsuited =>
    simp only [generate, FileTree.runs_bind, FileTree.runs_liftExcept, known,
      runs_resolve_eq_iff.mpr ⟨resolved, rfl⟩, unsuited]

theorem generate_eq_ok {summary : Summary} (run : t.runs c.generate = (.ok summary, after)) :
    ∃ model contexts made half, Prepared c t summary.target model contexts ∧
      t.makeDirectory c.outputDirectory = (.ok (), made) ∧
      made.write (FilePath.child c.outputDirectory modelFile) model.toJson.pretty = .ok half ∧
      half.write (FilePath.child c.outputDirectory contextsFile) contexts.toJson.pretty =
        .ok after ∧
      summary.requests = model.requests.length ∧ summary.types = model.types.size ∧
      summary.outputDirectory = c.outputDirectory := by
  -- Each step before the writing leaves the tree as it is, so that the writing starts from it.
  obtain ⟨target, start, known, run⟩ := FileTree.runs_bind_eq_ok.mp run
  rw [FileTree.runs_liftExcept_eq_iff] at known
  obtain ⟨known, rfl⟩ := known
  obtain ⟨model, start, resolved, run⟩ := FileTree.runs_bind_eq_ok.mp run
  rw [runs_resolve_eq_iff] at resolved
  obtain ⟨resolved, rfl⟩ := resolved
  obtain ⟨contexts, start, suited, run⟩ := FileTree.runs_bind_eq_ok.mp run
  rw [FileTree.runs_liftExcept_eq_iff] at suited
  obtain ⟨suited, rfl⟩ := suited
  obtain ⟨_, made, directory, run⟩ := FileTree.runs_bind_eq_ok.mp run
  obtain ⟨_, half, modelPut, run⟩ := FileTree.runs_bind_eq_ok.mp run
  obtain ⟨_, full, contextsPut, run⟩ := FileTree.runs_bind_eq_ok.mp run
  obtain ⟨told, rfl⟩ := Prod.mk.inj run
  obtain rfl := Except.ok.inj told
  exact ⟨model, contexts, made, half, ⟨known, resolved, suited⟩,
    FileTree.runs_ensureDirectory_eq_ok.mp directory, FileTree.runs_writeText_eq_ok.mp modelPut,
    FileTree.runs_writeText_eq_ok.mp contextsPut, rfl, rfl, rfl⟩

theorem generated_of_ok {summary : Summary} (run : t.runs c.generate = (.ok summary, after)) :
    ∃ model contexts, Generated c t summary after model contexts := by
  obtain ⟨model, contexts, made, half, prepared, directory, modelPut, contextsPut, requests, types,
    outputDirectory⟩ := generate_eq_ok run
  obtain ⟨modelWritten, contextsWritten, directories, elsewhere⟩ :=
    nodeAt?_of_writes directory modelPut contextsPut
  obtain ⟨contextRequests, contextTypes⟩ := Model.length_of_contexts prepared.suited
  have modelRead : after.valueAt? c.modelPlace = some model.toJson :=
    FileTree.valueAt?_of_pretty modelWritten model.readable_toJson
  have contextsRead : after.valueAt? c.contextsPlace = some contexts.toJson :=
    FileTree.valueAt?_of_pretty contextsWritten contexts.readable_toJson
  exact ⟨model, contexts, {
    prepared with
    outputDirectory
    modelDecoded := by rw [modelRead, Option.bind_some, Model.undoes]
    modelRequests := by rw [modelRead, Option.bind_some, model.countAt?_toJson.1, requests]
    modelTypes := by rw [modelRead, Option.bind_some, model.countAt?_toJson.2, types]
    contextRequests := by
      rw [contextsRead, Option.bind_some, contexts.countAt?_toJson.1, contextRequests, requests]
    contextTypes := by
      rw [contextsRead, Option.bind_some, contexts.countAt?_toJson.2, contextTypes, types]
    modelWritten, modelRead, contextsWritten, contextsRead, directories, elsewhere }⟩

theorem generate_error {e : Error} (run : t.runs c.generate = (.error e, after)) :
    FailsEarly c t e ∨ ∃ target model contexts cause, Prepared c t target model contexts ∧
      FailsWriting c t model contexts cause after ∧ e = .file cause := by
  rcases FileTree.runs_bind_eq_error.mp run with unknown | ⟨target, start, known, run⟩
  · exact .inl (.target (FileTree.runs_liftExcept_eq_iff.mp unknown).1)
  rw [FileTree.runs_liftExcept_eq_iff] at known
  obtain ⟨known, rfl⟩ := known
  rcases FileTree.runs_bind_eq_error.mp run with unresolved | ⟨model, start, resolved, run⟩
  · have stopped := (runs_resolve_eq_iff.mp unresolved).1
    rw [runs_resolve] at stopped
    rcases bind_eq_error.mp stopped with missing | ⟨contract, loaded, refused⟩
    · exact .inl (.contract known missing)
    · exact .inl (.resolution known loaded refused)
  rw [runs_resolve_eq_iff] at resolved
  obtain ⟨resolved, rfl⟩ := resolved
  rcases FileTree.runs_bind_eq_error.mp run with unsuited | ⟨contexts, start, suited, run⟩
  · exact .inl (.contexts known resolved (FileTree.runs_liftExcept_eq_iff.mp unsuited).1)
  rw [FileTree.runs_liftExcept_eq_iff] at suited
  obtain ⟨suited, rfl⟩ := suited
  obtain ⟨cause, fails, told⟩ := failsWriting_of_error run
  exact .inr ⟨target, model, contexts, cause, ⟨known, resolved, suited⟩, fails, told⟩

/-- A run that fails before it writes leaves the tree as it is, and one that succeeds leaves its two
files there. All other runs fail in writing. -/
theorem generate_effects (c : Config) (t : FileTree) :
    (∀ e, FailsEarly c t e → t.runs c.generate = (.error e, t)) ∧
      (∀ summary after, t.runs c.generate = (.ok summary, after) →
        ∃ model contexts, Generated c t summary after model contexts) ∧
      ∀ e after, t.runs c.generate = (.error e, after) → FailsEarly c t e ∨
        ∃ target model contexts cause, Prepared c t target model contexts ∧
          FailsWriting c t model contexts cause after ∧ e = .file cause :=
  ⟨fun _ => generate_of_failsEarly, fun _ _ => generated_of_ok, fun _ _ => generate_error⟩

end Run

-- The contract lies in the directory that the results go to.
def apiConfig : Config where
  projectName := "api"
  contractPath := "/api/contract.json"
  outputDirectory := "/api"

def apiTree : FileTree :=
  .directory [("api", .directory [("contract.json", .file (some <|
    "\x7b\"requests\":[\x7b\"name\":\"GetTapeRequest\"," ++
    "\"classification\":\"spectrads3\"\x7d]\x7d"))])]

-- Where the directory of the results is to be, there is the contract.
def blockedConfig : Config where
  projectName := "api"
  contractPath := "/api/contract.json"
  outputDirectory := "/api/contract.json"

theorem generate_effects_apiTree :
    (FailsEarly { apiConfig with targetName := "cobol" } apiTree (.unsupportedTarget "cobol") ∧
      apiTree.runs (generate { apiConfig with targetName := "cobol" }) =
        (.error (.unsupportedTarget "cobol"), apiTree)) ∧
      (∃ after model contexts,
        apiTree.runs apiConfig.generate = (.ok ⟨.rust, 1, 0, "/api"⟩, after) ∧
          Generated apiConfig apiTree ⟨.rust, 1, 0, "/api"⟩ after model contexts) ∧
      ∃ after, apiTree.runs blockedConfig.generate = (.error (.file .exists), after) ∧
        (FailsEarly blockedConfig apiTree (.file .exists) ∨
          ∃ target model contexts cause, Prepared blockedConfig apiTree target model contexts ∧
            FailsWriting blockedConfig apiTree model contexts cause after ∧
              Error.file .exists = .file cause) := by
  have unknown : FailsEarly { apiConfig with targetName := "cobol" } apiTree
      (.unsupportedTarget "cobol") := .target (by decide +kernel)
  have told : (apiTree.runs apiConfig.generate).1 = .ok ⟨.rust, 1, 0, "/api"⟩ := by decide +kernel
  have refused : (apiTree.runs blockedConfig.generate).1 = .error (.file .exists) := by
    decide +kernel
  obtain ⟨model, contexts, generated⟩ :=
    (generate_effects apiConfig apiTree).2.1 _ _ (Prod.ext told rfl)
  exact ⟨⟨unknown, (generate_effects _ _).1 _ unknown⟩,
    ⟨_, model, contexts, Prod.ext told rfl, generated⟩,
    ⟨_, Prod.ext refused rfl, (generate_effects _ _).2.2 _ _ (Prod.ext refused rfl)⟩⟩

end Config

end ApiContract
