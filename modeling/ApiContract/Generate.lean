import ApiContract.Config.File
import ApiContract.Context
import ApiContract.Contract.File
import ApiContract.Json.Printer

set_option autoImplicit false

namespace ApiContract

structure Summary where
  target : Target
  requests : Nat
  types : Nat
  outputDirectory : String
  deriving DecidableEq

namespace Config

def modelFile : String := "resolved_model.json"

def contextsFile : String := "contexts.json"

variable {m : Type → Type} [Monad m] [Storage m] [Network]

def resolve (c : Config) : ExceptT Error m Model := do
  let contract ← Contract.load c.contractPath
  liftExcept (contract.resolve c.selection)

-- Nothing is written unless there is a target, and a model with contexts for it.
def generate (c : Config) : ExceptT Error m Summary := do
  let target ← liftExcept (Target.ofText? c.targetName)
  let model ← c.resolve
  let contexts ← liftExcept (model.contexts target)
  Storage.ensureDirectory c.outputDirectory
  Storage.writeText (FilePath.child c.outputDirectory modelFile) model.toJson.pretty
  Storage.writeText (FilePath.child c.outputDirectory contextsFile) contexts.toJson.pretty
  pure {
    target
    requests := model.requests.length
    types := model.types.size
    outputDirectory := c.outputDirectory }

end Config

end ApiContract
