import CertSteward.Json.Shape

/-!
# Failed requests

Why a single request to the service gave no value.
-/

namespace CertSteward

set_option autoImplicit false

/-- Why no complete answer arrived. -/
inductive RequestFault where
  /-- The request could not be formed. -/
  | rejected
  /-- The exchange broke off. -/
  | broken
  | timedOut
deriving DecidableEq, Repr

inductive ApiError where
  /-- A complete answer that reports a failure. -/
  | http (status : Nat) (message : String)
  | request (fault : RequestFault)
  /-- A successful answer whose body is not the expected value. -/
  | decode (cause : Json.DecodeError)
  | invalidUrl (message : String)
deriving DecidableEq, Repr

namespace ApiError

def message : ApiError → String
  | .http status message => "HTTP " ++ toString status ++ ": " ++ message
  | .request _ => "request failed: *"
  | .decode cause => "invalid response body: " ++ cause.message
  | .invalidUrl message => "invalid API URL: " ++ message

def isNotFound : ApiError → Bool
  | .http status _ => status == 404
  | _ => false

def isUnauthorized : ApiError → Bool
  | .http status _ => status == 401 || status == 403
  | _ => false

def isRateLimited : ApiError → Bool
  | .http status _ => status == 429
  | _ => false

def isServerError : ApiError → Bool
  | .http status _ => 500 ≤ status && status ≤ 599
  | _ => false

def isTimeout : ApiError → Bool
  | .request fault => fault == .timedOut
  | _ => false

end ApiError

end CertSteward
