import CertSteward.ApiError
import CertSteward.Config.Error
import CertSteward.Operation

/-!
# Errors of certificate operations

Everything that a call to a certificate manager can end with. A request that
fails keeps its own predicates; one that fails while an operation is polled
says nothing about the certificate.
-/

namespace CertSteward

set_option autoImplicit false

/-- Why a wait was given up. -/
inductive EndReason where
  | cancelled
  | deadlineExceeded
deriving DecidableEq, Repr

inductive StewardError where
  | api (error : ApiError)
  | operation (error : OperationError)
  | operationPoll (operation : String) (error : ApiError)
  | ended (reason : EndReason)
  | config (error : ConfigError)
deriving DecidableEq, Repr

def EndReason.message : EndReason → String
  | .cancelled => "context canceled"
  | .deadlineExceeded => "context deadline exceeded"

namespace StewardError

def message : StewardError → String
  | .api error => error.message
  | .operation error => error.message
  | .operationPoll name error =>
      "could not get operation " ++ name ++ ": " ++ error.message
  | .ended reason => reason.message
  | .config error => "Configuration error: " ++ error.message

def isNotFound : StewardError → Bool
  | .api error => error.isNotFound
  | _ => false

def isQuotaExceeded : StewardError → Bool
  | .operation error => error.isQuotaExceeded
  | _ => false

def isCancelled : StewardError → Bool
  | .ended _ => true
  | _ => false

def isTimeout : StewardError → Bool
  | .ended reason => reason == .deadlineExceeded
  | .api error => error.isTimeout
  | .operationPoll _ error => error.isTimeout
  | _ => false

def operation? : StewardError → Option Operation
  | .operation error => some error.operation
  | _ => none

end StewardError

end CertSteward
