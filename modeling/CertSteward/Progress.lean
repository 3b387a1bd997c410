import CertSteward.Log

/-!
# Progress of a wait

The events that a wait reports, and a reporter that turns each event into a
log entry. Times are milliseconds since the wait began; the log shows whole
seconds.
-/

namespace CertSteward

set_option autoImplicit false

inductive ProgressEvent where
  | started (operation : String)
  | polling (operation status : String) (attempt elapsed : Nat)
  | completed (operation : String) (elapsed : Nat)
  | failed (operation error : String)
deriving DecidableEq, Repr

namespace ProgressEvent

def operation : ProgressEvent → String
  | .started operation => operation
  | .polling operation _ _ _ => operation
  | .completed operation _ => operation
  | .failed operation _ => operation

def entry (level : LogLevel) (message : String) (fields : List (String × String)) : LogEntry :=
  ⟨level, "managed_certs::progress", message, fields⟩

def seconds (milliseconds : Nat) : String :=
  toString (milliseconds / 1000)

def logEntry : ProgressEvent → LogEntry
  | .started operation => entry .info "Wait for operation" [("operation", operation)]
  | .polling operation status attempt elapsed =>
      entry .info "Operation status"
        [("operation", operation), ("status", status), ("attempt", toString attempt),
          ("elapsed_secs", seconds elapsed)]
  | .completed operation elapsed =>
      entry .info "Operation done" [("operation", operation), ("elapsed_secs", seconds elapsed)]
  | .failed operation error =>
      entry .warn "Operation failed" [("operation", operation), ("error", error)]

end ProgressEvent

end CertSteward
