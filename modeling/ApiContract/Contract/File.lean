import ApiContract.Document.Text
import ApiContract.Network
import ApiContract.Storage

set_option autoImplicit false

namespace ApiContract.Contract

def fetch? [Network] (address : String) : Except Error Contract := do
  let text ← (Network.fetch address).mapError fun cause => Error.contract address (.fetch cause)
  (ofText? text).mapError fun cause => Error.contract address (.inPage cause)

variable {m : Type → Type} [Monad m] [Storage m]

def loadFile (path : String) : ExceptT Error m Contract := do
  let text ← Storage.readText path
  liftExcept ((ofText? text).mapError fun cause => Error.contract path (.inFile cause))

def load [Network] (location : String) : ExceptT Error m Contract :=
  match Network.address? location with
  | some address => liftExcept (fetch? address)
  | none => loadFile location

end ApiContract.Contract
