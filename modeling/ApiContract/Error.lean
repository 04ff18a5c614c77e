import ApiContract.Text.Quoted
import ApiContract.Wording

set_option autoImplicit false

namespace ApiContract

inductive FileError where
  | notFound
  | exists
  | notDirectory
  | isDirectory
  | nameTooLong
  | nulInPath
  | notText
  deriving DecidableEq

def FileError.message : FileError → String
  | .notFound => "No such file or directory (os error 2)"
  | .exists => "File exists (os error 17)"
  | .notDirectory => "Not a directory (os error 20)"
  | .isDirectory => "Is a directory (os error 21)"
  | .nameTooLong => "File name too long (os error 36)"
  | .nulInPath => "file name contained an unexpected NUL byte"
  | .notText => "stream did not contain valid UTF-8"

inductive ParseError where
  | unreadable (text : String)
  | keyMismatch (key name : String)
  deriving DecidableEq

def ParseError.message [Wording] : ParseError → String
  | .unreadable text =>
    "content is neither a valid JSON (" ++ Wording.jsonContract text ++ ") nor YAML (" ++
      Wording.yamlContract text ++ ") contract"
  | .keyMismatch key name => s!"type catalog key {key} does not match type name {name}"

inductive FetchError where
  | unreachable (reason : String)
  | refused (status : String)
  | unreadable (reason : String)
  deriving DecidableEq

inductive ContractError where
  | inFile (cause : ParseError)
  | inPage (cause : ParseError)
  | fetch (cause : FetchError)
  deriving DecidableEq

def ContractError.message [Wording] (location : String) : ContractError → String
  | .inFile cause => "Failed to parse contract at " ++ location ++ ": " ++ cause.message
  | .inPage cause => "Failed to parse contract from " ++ location ++ ": " ++ cause.message
  | .fetch (.unreachable reason) =>
    "Failed to fetch contract from " ++ location ++ ": " ++ reason
  | .fetch (.refused status) =>
    "Failed to fetch contract from " ++ location ++ ": HTTP " ++ status
  | .fetch (.unreadable reason) =>
    "Failed to read response from " ++ location ++ ": " ++ reason

inductive Defect where
  | noSimpleName
  | paramWithoutName
  | paramWithoutType (param : String)
  | responseTypeWithoutName (code : UInt16)
  | severalTypes (code : UInt16)
  | stillSeveralTypes (code : UInt16) (count : Nat) (payload : String)
  | severalPayloads
  | severalTags (tags : List String)
  deriving DecidableEq

def Defect.message : Defect → String
  | .noSimpleName => "request has no simple name"
  | .paramWithoutName => "param without a name"
  | .paramWithoutType param => s!"param {param} has no type"
  | .responseTypeWithoutName code =>
    "response code " ++ toString code.toNat ++ " has a response type without a name"
  | .severalTypes code =>
    "response code " ++ toString code.toNat ++ " has more than one response type"
  | .stillSeveralTypes code count payload =>
    "status " ++ toString code.toNat ++ " still lists " ++ toString count ++
      " response types after selecting " ++ payload
  | .severalPayloads => "multiple non-error response payloads"
  | .severalTags tags =>
    "multiple xml tag names in annotations: " ++ Text.quotedList tags

inductive Error where
  | file (cause : FileError)
  -- A text that holds no configuration in YAML, or in TOML.
  | yaml {text : String}
  | toml {text : String}
  | contract (location : String) (cause : ContractError)
  | malformed (name : String) (defect : Defect)
  | unrecognizedMultiResponse (request : String)
  | unsupportedTarget (name : String)
  deriving DecidableEq

def Error.message [Wording] : Error → String
  | .file cause => "I/O error: " ++ cause.message
  | @yaml text => "YAML parsing error: " ++ Wording.yamlConfig text
  | @toml text => "TOML parsing error: " ++ Wording.tomlConfig text
  | .contract location cause => "Contract error: " ++ cause.message location
  | .malformed name defect => "Malformed request '" ++ name ++ "': " ++ defect.message
  | .unrecognizedMultiResponse request =>
    "Unexpected request has multiple response types for a single response code: " ++ request
  | .unsupportedTarget name => "Unsupported target: " ++ name

end ApiContract
