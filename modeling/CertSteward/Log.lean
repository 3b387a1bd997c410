import CertSteward.Text.Quoted

/-!
# Log entries

Structured entries: a level, the part that speaks, a message and named
fields, each already in the form in which it is shown.
-/

namespace CertSteward

set_option autoImplicit false

inductive LogLevel where
  | trace
  | debug
  | info
  | warn
deriving DecidableEq, Repr

def LogLevel.name : LogLevel → String
  | .trace => "TRACE"
  | .debug => "DEBUG"
  | .info => "INFO"
  | .warn => "WARN"

structure LogEntry where
  level : LogLevel
  target : String
  message : String
  fields : List (String × String)
deriving DecidableEq, Repr

end CertSteward
