import ApiContract.Document.Config
import ApiContract.FilePath
import ApiContract.Storage
import ApiContract.Toml.Document
import ApiContract.Toml.Printer
import ApiContract.Yaml.Document
import ApiContract.Yaml.Printer

set_option autoImplicit false

namespace ApiContract.Config

inductive Format where
  | yaml
  | toml
  deriving DecidableEq

def Format.ofPath (path : String) : Format :=
  if FilePath.hasExtension "toml" path then .toml else .yaml

def write (format : Format) (c : Config) : String :=
  match format with
  | .yaml => Yaml.write c.settings
  | .toml => Toml.write c.settings

def read (format : Format) (text : String) : Except Error Config :=
  match format with
  | .yaml =>
    match (Yaml.value? text).bind ofDocument? with
    | some c => .ok c
    | none => .error (@Error.yaml text)
  | .toml =>
    match (Toml.parse? text).bind ofDocument? with
    | some c => .ok c
    | none => .error (@Error.toml text)

variable {m : Type → Type} [Monad m] [Storage m]

def load (path : String) : ExceptT Error m Config := do
  let text ← Storage.readText path
  liftExcept (read (.ofPath path) text)

def save (c : Config) (path : String) : ExceptT Error m Unit :=
  Storage.writeText path (c.write (.ofPath path))

end ApiContract.Config
