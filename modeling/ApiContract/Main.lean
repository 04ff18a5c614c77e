import ApiContract.CommandLine

set_option autoImplicit false

namespace ApiContract

def fileErrorOf : IO.Error → FileError
  | .alreadyExists .. => .exists
  | .inappropriateType _ code _ => if code = 21 then .isDirectory else .notDirectory
  | .invalidArgument .. => .nulInPath
  | .resourceExhausted .. => .nameTooLong
  | _ => .notFound

def attemptFile {α : Type} (action : IO α) : IO (Except FileError α) := do
  try
    return .ok (← action)
  catch e =>
    return .error (fileErrorOf e)

instance : Storage IO where
  read path := do
    match ← attemptFile (IO.FS.readBinFile path) with
    | .ok bytes =>
      match String.fromUTF8? bytes with
      | some text => return .ok text
      | none => return .error .notText
    | .error e => return .error e
  write path text := attemptFile (IO.FS.writeFile path text)
  makeDirectory path :=
    if path = "" then return .ok () else attemptFile (IO.FS.createDirAll path)

end ApiContract

def main (args : List String) : IO UInt32 := do
  let report : ApiContract.CommandLine.Report ← ApiContract.CommandLine.run args
  (← IO.getStdout).putStr report.output
  (← IO.getStderr).putStr report.complaint
  return report.code
