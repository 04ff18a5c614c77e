import ApiContract.Config.File
import ApiContract.Proofs.Decoding
import ApiContract.Proofs.Generation
import ApiContract.Proofs.TomlSettings
import ApiContract.Proofs.YamlSettings

set_option autoImplicit false

namespace ApiContract

namespace Document

structure Reads {V : Type} [Document V] (value : Setting → V) : Prop where
  text : ∀ text, text? (value (.text text)) = some text
  flag : ∀ flag, bool? (value (.flag flag)) = some flag
  texts : ∀ texts, names? (value (.texts texts)) = some texts

end Document

open Document

section Fields

attribute [local simp] Config.settings List.lookup_cons

theorem Config.ofDocument?_of_fields {V : Type} [Document V] {value : Setting → V}
    (reads : Reads value) {v : V} {c : Config}
    (present : fields? fieldNames v = some (c.settings.map fun s => (s.1, value s.2))) :
    ofDocument? v = some c :=
  bind_read present <|
    bind_read (required?_of_lookup (by simp) (reads.text c.projectName)) <|
    bind_read (required?_of_lookup (by simp) (reads.text c.contractPath)) <|
    bind_read (required?_of_lookup (by simp) (reads.text c.outputDirectory)) <|
    bind_read (defaulted?_of_lookup (by simp) (reads.text c.targetName)) <|
    bind_read (defaulted?_of_lookup (by simp) (reads.flag c.selection.includeInternal)) <|
    bind_read (defaulted?_of_lookup (by simp) (reads.texts c.selection.included)) <|
    bind_read (defaulted?_of_lookup (by simp) (reads.texts c.selection.excluded)) <|
    rfl

end Fields

namespace Toml

theorem reads_ofSetting : Reads ofSetting where
  text _ := rfl
  flag _ := rfl
  texts texts := by
    show (texts.map Value.text).mapM Value.text? = some texts
    rw [List.mapM_map]
    exact List.mapM_pure.trans (congrArg some texts.map_id)

theorem fields?_ofSetting {settings : Settings} {names : List String}
    (known : ∀ s ∈ settings, s.1 ∈ names) :
    fields? names (Value.table .header (settings.map fun s => (s.1, ofSetting s.2))) =
      some (settings.map fun s => (s.1, ofSetting s.2)) := by
  refine congrArg some (List.filter_eq_self.mpr (List.forall_mem_map.mpr fun s listed => ?_))
  simpa using known s listed

end Toml

namespace Yaml.Value

variable (anchored : List (Nat × Node))

theorem untyped?_styleOf (text : String) : untyped? {} (styleOf text) text = some (some text) := by
  unfold untyped?
  by_cases plain : styleOf text = .plain
  · have isText := isText_of_styleOf plain
    have other : text ≠ "" ∧ Scalar.isNull text = false := by
      simp only [Scalar.isText, Bool.and_eq_true, decide_eq_true_eq, Bool.not_eq_true'] at isText
      exact isText.1.1.1
    simp [plain, other, isText]
  · simp [plain]

theorem reads_ofSetting : Reads fun s => (⟨anchored, ofSetting s⟩ : Value) where
  text _ := rfl
  flag flag := by cases flag <;> rfl
  texts texts := by
    show (texts.map fun text => Node.scalar {} (styleOf text) text).mapM
      (fun n => (child ⟨anchored, ofSetting (.texts texts)⟩ n).name?) = some texts
    rw [List.mapM_map]
    have name (text : String) :
        (child ⟨anchored, ofSetting (.texts texts)⟩ (.scalar {} (styleOf text) text)).name? =
          some text := by
      show (untyped? {} (styleOf text) text).join = some text
      rw [untyped?_styleOf, Option.join_some]
    exact (congrArg (texts.mapM ·) (funext name)).trans <|
      List.mapM_pure.trans (congrArg some texts.map_id)

theorem fields?_ofSetting {settings : Settings} {names : List String}
    (known : ∀ s ∈ settings, s.1 ∈ names) (distinct : (settings.map Prod.fst).Nodup) :
    Document.fields? names (⟨anchored, .mapping {} (settings.map fun s =>
        (.scalar {} .plain s.1, ofSetting s.2))⟩ : Value) =
      some (settings.map fun s => (s.1, ⟨anchored, ofSetting s.2⟩)) := by
  set v : Value := ⟨anchored, .mapping {} (settings.map fun s =>
    (.scalar {} .plain s.1, ofSetting s.2))⟩ with isMapping
  have entries : v.entries? = some (settings.map fun s => (s.1, ⟨anchored, ofSetting s.2⟩)) := by
    show (settings.map fun s => (Node.scalar {} .plain s.1, ofSetting s.2)).mapM
      (fun e => (text? (v.child e.1)).map (·, v.child e.2)) = _
    rw [List.mapM_map]
    exact List.mapM_pure
  have kept : (settings.map fun s => (s.1, (⟨anchored, ofSetting s.2⟩ : Value))).filter
      (names.contains ·.1) = settings.map fun s => (s.1, ⟨anchored, ofSetting s.2⟩) := by
    refine List.filter_eq_self.mpr (List.forall_mem_map.mpr fun s listed => ?_)
    simpa using known s listed
  show v.fields? names = _
  rw [Value.fields?, entries]
  simp only [Option.bind_eq_bind, Option.bind_some, kept, List.map_map]
  exact if_pos distinct

end Yaml.Value

namespace Config

theorem known_settings (c : Config) : ∀ s ∈ c.settings, s.1 ∈ fieldNames := by
  intro s listed
  exact List.mem_map_of_mem (f := Prod.fst) listed

theorem distinct_settings (c : Config) : (c.settings.map Prod.fst).Nodup :=
  show fieldNames.Nodup by decide

theorem isKey_of_mem {name : String} (known : name ∈ fieldNames) : Yaml.IsKey name := by
  have keys : ∀ name ∈ fieldNames, name.toList ≠ [] ∧
      (name.toList.all fun c => c.isAlphanum || c == '_') = true ∧
      name.toList.length ≤ Yaml.longestKey := by
    decide
  obtain ⟨present, word, short⟩ := keys name known
  exact ⟨present, List.all_eq_true.mp word, short⟩

theorem isBare_of_mem {name : String} (known : name ∈ fieldNames) : Toml.IsBare name := by
  have bare : ∀ name ∈ fieldNames, name.toList ≠ [] ∧ name.toList.all Toml.isBareChar = true := by
    decide
  obtain ⟨present, bare⟩ := bare name known
  exact ⟨present, List.all_eq_true.mp bare⟩

theorem read_write (format : Format) (c : Config) : read format (c.write format) = .ok c := by
  cases format with
  | yaml =>
    have keys : ∀ s ∈ c.settings, Yaml.IsKey s.1 := fun s listed =>
      isKey_of_mem (known_settings c s listed)
    have decoded : (Yaml.value? (Yaml.write c.settings)).bind ofDocument? = some c := by
      rw [Yaml.value?, settings, Yaml.parse?_write keys, Option.map_some, Option.bind_some]
      exact ofDocument?_of_fields (Yaml.Value.reads_ofSetting _)
        (Yaml.Value.fields?_ofSetting _ (known_settings c) (distinct_settings c))
    rw [read, write, decoded]
  | toml =>
    have bare : ∀ s ∈ c.settings, Toml.IsBare s.1 := fun s listed =>
      isBare_of_mem (known_settings c s listed)
    have decoded : (Toml.parse? (Toml.write c.settings)).bind ofDocument? = some c := by
      rw [Toml.parse?_write bare (distinct_settings c), Option.bind_some]
      exact ofDocument?_of_fields Toml.reads_ofSetting (Toml.fields?_ofSetting (known_settings c))
    rw [read, write, decoded]

/-- A configuration is read again from what is written of it, and so from the file it is saved
in. -/
theorem load_save (c : Config) :
    (∀ format, read format (c.write format) = .ok c) ∧
      ∀ {path : String} {t saved : FileTree}, t.runs (c.save path) = (.ok (), saved) →
        saved.runs (load path) = (.ok c, saved) := by
  refine ⟨fun format => read_write format c, fun {path t saved} saves => ?_⟩
  have text : saved.read path = .ok (c.write (.ofPath path)) :=
    FileTree.read_write (FileTree.runs_writeText_eq_ok.mp saves)
  rw [load, FileTree.runs_bind, FileTree.runs_readText, text]
  show saved.runs (liftExcept (read (.ofPath path) (c.write (.ofPath path)))) = _
  rw [FileTree.runs_liftExcept, read_write]

-- Texts that look like values of other types, span lines or need escapes.
def trickyConfig : Config where
  projectName := "null"
  contractPath := " # not a remark\r\n\tC:\\new \"api\"\n"
  outputDirectory := "1e5"
  targetName := ""
  selection := { includeInternal := true, included := ["true", "", "- ~"], excluded := ["0x1F\n"] }

def savingTree : FileTree :=
  .directory [("old.toml", .file none), ("runs", .directory [])]

theorem load_save_trickyConfig :
    ∃ inToml inYaml,
      savingTree.runs (trickyConfig.save "runs/../old.TOML") = (.ok (), inToml) ∧
        inToml.runs (load "runs/../old.TOML") = (.ok trickyConfig, inToml) ∧
      savingTree.runs (trickyConfig.save "runs/.toml") = (.ok (), inYaml) ∧
        inYaml.runs (load "runs/.toml") = (.ok trickyConfig, inYaml) := by
  have saved (path : String) (saves : (savingTree.runs (trickyConfig.save path)).1 = .ok ()) :
      savingTree.runs (trickyConfig.save path) =
        (.ok (), (savingTree.runs (trickyConfig.save path)).2) :=
    Prod.ext saves rfl
  have toToml := saved "runs/../old.TOML" (by decide +kernel)
  have toYaml := saved "runs/.toml" (by decide +kernel)
  exact ⟨_, _, toToml, (load_save trickyConfig).2 toToml, toYaml, (load_save trickyConfig).2 toYaml⟩

end Config

end ApiContract
