import CertSteward.Client
import CertSteward.Http.Server

/-!
# Sessions of client calls

Calls of one client one after the other over one transport. A call whose
certificate could not be made sense of is answered without a request.
-/

namespace CertSteward.Client

set_option autoImplicit false

structure Call where
  project : String
  rpc : Except ApiError Rpc

/-- What a call answers when it succeeds. -/
inductive Value where
  | operation (operation : Operation)
  | certificate (certificate : Certificate)
  | list (list : CertificateList)
deriving DecidableEq, Repr

def valueOf : (rpc : Rpc) → rpc.Result → Value
  | .insert _, operation => .operation operation
  | .delete _, operation => .operation operation
  | .get _, certificate => .certificate certificate
  | .list, list => .list list
  | .operation _, operation => .operation operation

structure Step (State : Type) where
  result : Option (Except ApiError Value)
  log : List LogEntry
  /-- The transport after the call. -/
  after : State

variable {State : Type}

def answer (service : Service State) (call : Call) (state : State) : Step State :=
  match call.rpc with
  | .error error => ⟨some (.error error), [], state⟩
  | .ok rpc =>
      let (reply, state) := service.call call.project rpc state
      ⟨reply.result.map fun result => result.map (valueOf rpc), reply.log, state⟩

/-- The steps of calls from a state of the transport. -/
def session (service : Service State) (state : State) : List Call → List (Step State)
  | [] => []
  | call :: rest =>
      let step := answer service call state
      step :: session service step.after rest

end CertSteward.Client
