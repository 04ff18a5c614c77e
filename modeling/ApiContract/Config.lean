import ApiContract.Resolve
import ApiContract.Settings

set_option autoImplicit false

namespace ApiContract

structure Config where
  projectName : String
  contractPath : String
  outputDirectory : String
  -- The name of the target, which need not be known.
  targetName : String := "rust"
  selection : Selection := {}
  deriving DecidableEq

namespace Config

def settings (c : Config) : Settings :=
  [("project_name", .text c.projectName),
    ("contract_path", .text c.contractPath),
    ("output_dir", .text c.outputDirectory),
    ("target_kind", .text c.targetName),
    ("include_internal", .flag c.selection.includeInternal),
    ("include_requests", .texts c.selection.included),
    ("exclude_requests", .texts c.selection.excluded)]

end Config

end ApiContract
