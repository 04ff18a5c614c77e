set_option autoImplicit false

namespace ApiContract

inductive LogLevel where
  | warn
  | info
  | debug
  deriving DecidableEq

def LogLevel.text : LogLevel → String
  | .warn => "WARN"
  | .info => "INFO"
  | .debug => "DEBUG"

structure LogRecord where
  level : LogLevel
  text : String
  deriving DecidableEq

-- What is recorded of a run is a function of its input, beside the one that computes its result.
abbrev Log := List LogRecord

end ApiContract
