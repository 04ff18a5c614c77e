import ApiContract.Error

set_option autoImplicit false

namespace ApiContract

class Storage (m : Type → Type) where
  read : String → m (Except FileError String)
  write : String → String → m (Except FileError Unit)
  -- Makes a directory and those it lies in, as far as they are missing.
  makeDirectory : String → m (Except FileError Unit)

namespace Storage

variable {m : Type → Type} [Monad m] [Storage m]

def attempt {α : Type} (operation : m (Except FileError α)) : ExceptT Error m α :=
  ExceptT.mk ((Except.mapError Error.file) <$> operation)

def readText (path : String) : ExceptT Error m String :=
  attempt (read path)

def writeText (path text : String) : ExceptT Error m Unit :=
  attempt (write path text)

def ensureDirectory (path : String) : ExceptT Error m Unit :=
  attempt (makeDirectory path)

end Storage

end ApiContract
