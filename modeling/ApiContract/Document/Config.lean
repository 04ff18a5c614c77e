import ApiContract.Config
import ApiContract.Document
import ApiContract.Json

set_option autoImplicit false

namespace ApiContract.Config

open Document

def fieldNames : List String :=
  ["project_name", "contract_path", "output_dir", "target_kind", "include_internal",
    "include_requests", "exclude_requests"]

def ofDocument? {V : Type} [Document V] (v : V) : Option Config := do
  let fields ← fields? fieldNames v
  let projectName ← required? fields "project_name" text?
  let contractPath ← required? fields "contract_path" text?
  let outputDirectory ← required? fields "output_dir" text?
  let targetName ← defaulted? fields "target_kind" text? "rust"
  let includeInternal ← defaulted? fields "include_internal" bool? false
  let included ← defaulted? fields "include_requests" names? []
  let excluded ← defaulted? fields "exclude_requests" names? []
  pure {
    projectName, contractPath, outputDirectory, targetName
    selection := { includeInternal, included, excluded } }

def settingJson : Setting → Json
  | .text text => .str text
  | .flag value => .bool value
  | .texts texts => .ofTexts texts

def toJson (c : Config) : Json :=
  .obj (c.settings.map fun s => (s.1, settingJson s.2))

end ApiContract.Config
