import ApiContract.CommandLine.Command
import ApiContract.Config
import ApiContract.Proofs.Outcome

set_option autoImplicit false

namespace ApiContract.CommandLine

def spelled (options : Options) (g : Given) : String :=
  if options.lookup g.name = some .flag then "--" ++ g.name else "--" ++ g.name ++ "=" ++ g.value

/-- Names that two dashes and an equals sign can be put around. -/
def Nameable (options : Options) : Prop :=
  ∀ o ∈ options, o.1 ≠ "" ∧ '=' ∉ o.1.toList

instance (options : Options) : Decidable (Nameable options) :=
  inferInstanceAs (Decidable (∀ o ∈ options, _))

def Admissible (options : Options) (g : Given) : Prop :=
  ∃ arity, options.lookup g.name = some arity ∧ (arity = .flag → g.value = "") ∧
    (arity = .path → g.value ≠ "")

def Once (options : Options) (given : List Given) : Prop :=
  given.Pairwise fun g h => g.name = h.name → options.lookup h.name = some .values

theorem takeWhile_name {name : List Char} (plain : '=' ∉ name) (rest : List Char) :
    (name ++ rest).takeWhile (· != '=') = name ++ rest.takeWhile (· != '=') := by
  apply List.takeWhile_append_of_pos
  intro c inside
  simpa using fun same : c = '=' => plain (same ▸ inside)

theorem splitOption_alone {name : List Char} (plain : '=' ∉ name) :
    splitOption name = (String.ofList name, none) := by
  have whole := takeWhile_name plain []
  simp only [List.append_nil, List.takeWhile_nil] at whole
  simp [splitOption, whole]

theorem splitOption_joined {name : List Char} (plain : '=' ∉ name) (value : List Char) :
    splitOption (name ++ '=' :: value) = (String.ofList name, some (String.ofList value)) := by
  have front := takeWhile_name plain ('=' :: value)
  simp only [List.takeWhile_cons, bne_self_eq_false, Bool.false_eq_true, if_false,
    List.append_nil] at front
  simp [splitOption, front]

section Reading

variable {options : Options} {given more rest : List Given} {g : Given} {arity : Arity}

theorem nameable_of_known (nameable : Nameable options)
    (known : options.lookup g.name = some arity) : g.name ≠ "" ∧ '=' ∉ g.name.toList := by
  obtain ⟨before, after, rfl, -⟩ := List.lookup_eq_some_iff.mp known
  exact nameable (g.name, arity) (by simp)

theorem Once.append (once : Once options given)
    (several : ∀ g ∈ more, options.lookup g.name = some .values) :
    Once options (given ++ more) := by
  refine List.pairwise_append.mpr ⟨once, ?_, fun g _ h later _ => several h later⟩
  exact List.pairwise_of_forall_mem_list fun g _ h later _ => several h later

theorem give_eq_ok {name value : String}
    (fresh : arity = .values ∨ ∀ earlier ∈ given, earlier.name ≠ name)
    (placed : arity = .path → value ≠ "") :
    give arity name value given = .ok (given ++ [⟨name, value⟩]) := by
  have notTwice : ¬(decide (arity ≠ .values) && given.any (·.name == name)) = true := by
    rcases fresh with several | new
    · simp [several]
    · simpa using fun _ => new
  have notEmpty : ¬(decide (arity = .path) && decide (value = "")) = true := by
    simpa using placed
  rw [give, if_neg notTwice, if_neg notEmpty]

theorem readArguments_spelled_cons (nameable : Nameable options)
    (known : options.lookup g.name = some arity) (flag : arity = .flag → g.value = "")
    (later : List String) :
    readArguments options given (spelled options g :: later) =
      give arity g.name g.value given >>= fun given => readArguments options given later := by
  obtain ⟨nonempty, plain⟩ := nameable_of_known nameable known
  -- Only a flag has no value joined to it; without a first character it would be two dashes alone.
  by_cases isFlag : arity = .flag
  · subst isFlag
    have characters : (spelled options g).toList = '-' :: '-' :: g.name.toList := by
      simp [spelled, known]
    obtain ⟨c, cs, name⟩ : ∃ c cs, g.name.toList = c :: cs := by
      apply List.exists_cons_of_ne_nil
      simpa using nonempty
    rw [readArguments]
    simp only [characters, name]
    rw [← name, splitOption_alone plain]
    simp [known, flag rfl]
  · have characters : (spelled options g).toList =
        '-' :: '-' :: (g.name.toList ++ '=' :: g.value.toList) := by
      simp [spelled, known, isFlag]
    obtain ⟨c, cs, option⟩ : ∃ c cs, g.name.toList ++ '=' :: g.value.toList = c :: cs := by
      apply List.exists_cons_of_ne_nil
      simp
    rw [readArguments]
    simp only [characters, option]
    rw [← option, splitOption_joined plain]
    cases arity with
    | flag => exact absurd rfl isFlag
    | value | path | values => simp [known]

theorem readArguments_spelled (nameable : Nameable options)
    (admissible : ∀ g ∈ more, Admissible options g) (once : Once options (given ++ more)) :
    readArguments options given (more.map (spelled options)) = .ok (given ++ more) := by
  -- What has been given grows with each argument, so it is not fixed.
  induction more generalizing given with
  | nil => simp [readArguments]
  | cons g rest ih =>
    obtain ⟨⟨arity, known, flag, placed⟩, others⟩ := List.forall_mem_cons.mp admissible
    have fresh : arity = .values ∨ ∀ earlier ∈ given, earlier.name ≠ g.name := by
      by_cases several : arity = .values
      · exact .inl several
      · refine .inr fun earlier before same => several ?_
        have again := (List.pairwise_append.mp once).2.2 earlier before g List.mem_cons_self same
        exact Option.some.inj (known.symm.trans again)
    have next : readArguments options (given ++ [g]) (rest.map (spelled options)) =
        .ok ((given ++ [g]) ++ rest) := ih others (by simpa using once)
    rw [List.map_cons, readArguments_spelled_cons nameable known flag, bind_eq_ok]
    exact ⟨_, give_eq_ok fresh placed, by simpa using next⟩

end Reading

-- The options of a command of which some select requests.
def Selects (options : Options) : Prop :=
  ∀ o ∈ selectionOptions, options.lookup o.1 = some o.2

instance (options : Options) : Decidable (Selects options) :=
  inferInstanceAs (Decidable (∀ o ∈ selectionOptions, _))

def Beside (own : List Given) : Prop :=
  ∀ g ∈ own, selectionOptions.lookup g.name = none

def selectionGiven (s : Selection) : List Given :=
  (if s.includeInternal then [⟨"include-internal", ""⟩] else []) ++
    (s.included.map (⟨"include", ·⟩) ++ s.excluded.map (⟨"exclude", ·⟩))

section Selecting

variable {options : Options} {own : List Given} {s : Selection} {g : Given} {name : String}

theorem mem_selectionGiven :
    g ∈ selectionGiven s ↔ (s.includeInternal = true ∧ g = ⟨"include-internal", ""⟩) ∨
      (∃ name ∈ s.included, ⟨"include", name⟩ = g) ∨
        ∃ name ∈ s.excluded, ⟨"exclude", name⟩ = g := by
  cases internal : s.includeInternal <;> simp [selectionGiven, internal]

theorem Selects.admissible (selects : Selects options) :
    ∀ g ∈ selectionGiven s, Admissible options g := by
  intro g member
  rcases mem_selectionGiven.mp member with ⟨-, rfl⟩ | ⟨name, -, rfl⟩ | ⟨name, -, rfl⟩
  · exact ⟨.flag, selects ("include-internal", .flag) (by decide), by simp, by simp⟩
  · exact ⟨.values, selects ("include", .values) (by decide), by simp, by simp⟩
  · exact ⟨.values, selects ("exclude", .values) (by decide), by simp, by simp⟩

theorem ne_of_mem_selectionGiven (ownOption : selectionOptions.lookup name = none) :
    ∀ g ∈ selectionGiven s, g.name ≠ name := by
  rintro g member rfl
  have selects : Selects selectionOptions := by decide
  obtain ⟨arity, known, -⟩ := selects.admissible g member
  rw [ownOption] at known
  cases known

theorem Selects.once (selects : Selects options) : Once options (selectionGiven s) := by
  refine Once.append ?flag ?names
  case flag => split <;> simp [Once]
  case names =>
    intro g member
    rcases List.mem_append.mp member with included | excluded
    · obtain ⟨name, -, rfl⟩ := List.mem_map.mp included
      exact selects ("include", .values) (by decide)
    · obtain ⟨name, -, rfl⟩ := List.mem_map.mp excluded
      exact selects ("exclude", .values) (by decide)

theorem readArguments_selecting (nameable : Nameable options) (selects : Selects options)
    (beside : Beside own) (admissible : ∀ g ∈ own, Admissible options g) (once : Once options own)
    (s : Selection) :
    readArguments options [] ((own ++ selectionGiven s).map (spelled options)) =
      .ok (own ++ selectionGiven s) := by
  refine readArguments_spelled nameable ?_ ?_
  · intro g member
    exact (List.mem_append.mp member).elim (admissible g) (selects.admissible g)
  · rw [List.nil_append]
    refine List.pairwise_append.mpr ⟨once, selects.once, fun g inOwn chosen member same => ?_⟩
    exact absurd same.symm (ne_of_mem_selectionGiven (beside g inOwn) chosen member)

theorem valueOf?_append (ownOption : selectionOptions.lookup name = none) :
    valueOf? (own ++ selectionGiven s) name = valueOf? own name := by
  have absent : (selectionGiven s).find? (·.name == name) = none := by
    simpa using ne_of_mem_selectionGiven ownOption
  rw [valueOf?, valueOf?, List.find?_append, absent, Option.or_none]

theorem flagOf_append (ownOption : selectionOptions.lookup name = none) :
    flagOf (own ++ selectionGiven s) name = flagOf own name := by
  have absent : (selectionGiven s).any (·.name == name) = false := by
    simpa using ne_of_mem_selectionGiven ownOption
  rw [flagOf, flagOf, List.any_append, absent, Bool.or_false]

theorem Beside.ne_of_selects (beside : Beside own) {arity : Arity}
    (selects : selectionOptions.lookup name = some arity) : ∀ g ∈ own, g.name ≠ name := by
  rintro g member rfl
  rw [beside g member] at selects
  cases selects

theorem Beside.selectionOf_append (beside : Beside own) :
    selectionOf (own ++ selectionGiven s) = s := by
  obtain ⟨internal, included, excluded⟩ := s
  have notInternal : ∀ g ∈ own, g.name ≠ "include-internal" := beside.ne_of_selects rfl
  have notIncluded : ∀ g ∈ own, g.name ≠ "include" := beside.ne_of_selects rfl
  have notExcluded : ∀ g ∈ own, g.name ≠ "exclude" := beside.ne_of_selects rfl
  cases internal <;>
    simp +contextual [selectionOf, flagOf, valuesOf, selectionGiven, List.filter_map,
      Function.comp_def, notInternal, notIncluded, notExcluded]

end Selecting

def GenerateArguments.ofFile (path : String) : GenerateArguments where
  configPath := some path
  projectName := none
  contractPath := none
  outputDirectory := none
  targetName := none
  selection := {}

def GenerateArguments.ofConfig (c : Config) : GenerateArguments where
  configPath := none
  projectName := some c.projectName
  contractPath := some c.contractPath
  outputDirectory := some c.outputDirectory
  targetName := some c.targetName
  selection := c.selection

def settingsGiven (c : Config) : List Given :=
  [⟨"project-name", c.projectName⟩, ⟨"contract-path", c.contractPath⟩,
    ⟨"output-dir", c.outputDirectory⟩, ⟨"target-kind", c.targetName⟩]

def configGiven (c : Config) : List Given :=
  settingsGiven c ++ selectionGiven c.selection

theorem beside_settingsGiven (c : Config) : Beside (settingsGiven c) := by
  simp only [Beside, settingsGiven, List.forall_mem_cons, List.not_mem_nil, false_implies,
    implies_true, and_true]
  exact ⟨rfl, rfl, rfl, rfl⟩

theorem admissible_settingsGiven {c : Config} (placed : c.outputDirectory ≠ "") :
    ∀ g ∈ settingsGiven c, Admissible generateOptions g := by
  simp only [settingsGiven, List.forall_mem_cons, List.not_mem_nil, false_implies, implies_true,
    and_true]
  refine ⟨?_, ?_, ?_, ?_⟩
  all_goals exact ⟨_, rfl, by simp, by simp [placed]⟩

theorem ofArguments?_config {c : Config} (placed : c.outputDirectory ≠ "") :
    Command.ofArguments? ("generate" :: (configGiven c).map (spelled generateOptions)) =
      .ok (.generate (.ofConfig c)) := by
  have given : readArguments generateOptions [] ((configGiven c).map (spelled generateOptions)) =
      .ok (configGiven c) :=
    readArguments_selecting (by decide) (by decide) (beside_settingsGiven c)
      (admissible_settingsGiven placed) (by simp [Once, settingsGiven]) c.selection
  have selected : selectionOf (configGiven c) = c.selection :=
    (beside_settingsGiven c).selectionOf_append
  have unconfigured : valueOf? (configGiven c) "config" = valueOf? (settingsGiven c) "config" :=
    valueOf?_append rfl
  simp only [Command.ofArguments?, Command.ofGenerate?, given, bind, Except.bind, selected,
    unconfigured]
  rfl

def lookGiven (contractPath : String) (asJson : Bool) : List Given :=
  ⟨"contract-path", contractPath⟩ :: if asJson then [⟨"json", ""⟩] else []

theorem mem_lookGiven {contractPath : String} {asJson : Bool} {g : Given}
    (member : g ∈ lookGiven contractPath asJson) :
    g = ⟨"contract-path", contractPath⟩ ∨ g = ⟨"json", ""⟩ := by
  refine (List.mem_cons.mp member).imp_right fun json => ?_
  split at json
  · exact List.mem_singleton.mp json
  · cases json

theorem beside_lookGiven (contractPath : String) (asJson : Bool) :
    Beside (lookGiven contractPath asJson) := by
  intro g member
  rcases mem_lookGiven member with rfl | rfl <;> rfl

theorem ofArguments?_look (contractPath : String) (asJson : Bool) (s : Selection) :
    Command.ofArguments? ("inspect" ::
      (lookGiven contractPath asJson ++ selectionGiven s).map (spelled inspectOptions)) =
        .ok (.inspect ⟨contractPath, asJson, s⟩) := by
  have beside := beside_lookGiven contractPath asJson
  have admissible : ∀ g ∈ lookGiven contractPath asJson, Admissible inspectOptions g := by
    intro g member
    rcases mem_lookGiven member with rfl | rfl
    · exact ⟨.value, rfl, by simp, by simp⟩
    · exact ⟨.flag, rfl, by simp, by simp⟩
  have once : Once inspectOptions (lookGiven contractPath asJson) := by
    cases asJson <;> simp [Once, lookGiven]
  have given := readArguments_selecting (by decide) (by decide) beside admissible once s
  have selected : selectionOf (lookGiven contractPath asJson ++ selectionGiven s) = s :=
    beside.selectionOf_append
  have json : flagOf (lookGiven contractPath asJson ++ selectionGiven s) "json" = asJson :=
    calc _ = flagOf (lookGiven contractPath asJson) "json" := flagOf_append rfl
      _ = asJson := by cases asJson <;> rfl
  simp only [Command.ofArguments?, Command.ofInspect?, given, bind, Except.bind, selected, json]
  rfl

theorem ofArguments?_file {path : String} (nonempty : path ≠ "") :
    Command.ofArguments? ["generate", spelled generateOptions ⟨"config", path⟩] =
      .ok (.generate (.ofFile path)) := by
  have admissible : Admissible generateOptions ⟨"config", path⟩ :=
    ⟨.path, rfl, by simp, fun _ => nonempty⟩
  have given : readArguments generateOptions [] ([⟨"config", path⟩].map (spelled generateOptions)) =
      .ok [⟨"config", path⟩] :=
    readArguments_spelled (by decide) (by simpa using admissible) (by simp [Once])
  rw [List.map_singleton] at given
  simp only [Command.ofArguments?, Command.ofGenerate?, given, bind, Except.bind]
  rfl

end ApiContract.CommandLine
