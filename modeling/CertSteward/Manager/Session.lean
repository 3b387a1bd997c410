import CertSteward.Context.Plan
import CertSteward.Manager

/-!
# Sessions of manager calls

Calls of one manager one after the other, on one timeline and one service.
-/

namespace CertSteward.Manager

set_option autoImplicit false

inductive Request where
  | create (name : String) (domains : List String)
  | delete (name : String)
  | isPresent (name : String)
  | get (name : String)
  | list
deriving DecidableEq, Repr

structure Call where
  request : Request
  context : Context.Plan
deriving DecidableEq, Repr

/-- What a call answers when it succeeds. -/
inductive Answer where
  | done
  | flag (value : Bool)
  | certificate (certificate : Certificate)
  | certificates (certificates : List Certificate)
deriving DecidableEq, Repr

structure Step where
  trace : List TraceEntry
  result : Option (Except StewardError Answer)
  elapsed : Nat

structure Session (State : Type) where
  state : State
  timeline : Timeline
  contexts : List Context

variable {State : Type}

def perform (manager : Manager) (service : Service State) (rounds : Nat) (request : Request)
    (context : Context) (state : State) (timeline : Timeline) : Run State StewardError Answer :=
  match request with
  | .create name domains =>
      (manager.create service rounds context name domains state timeline).map fun _ => .done
  | .delete name =>
      (manager.delete service rounds context name state timeline).map fun _ => .done
  | .isPresent name => (manager.isPresent service name state timeline).map .flag
  | .get name => (manager.get service name state timeline).map .certificate
  | .list => (manager.list service state timeline).map .certificates

def Session.call (manager : Manager) (service : Service State) (rounds : Nat)
    (session : Session State) (call : Call) : Step × Session State :=
  let (context, timeline) := call.context.make session.contexts session.timeline
  let run := manager.perform service rounds call.request context session.state timeline
  (⟨run.trace, run.result, run.timeline.now - timeline.now⟩,
    ⟨run.state, run.timeline, session.contexts ++ [context]⟩)

def Session.calls (manager : Manager) (service : Service State) (rounds : Nat) :
    Session State → List Call → List (Step × State)
  | _, [] => []
  | session, call :: rest =>
      let (step, session) := session.call manager service rounds call
      (step, session.state) :: Session.calls manager service rounds session rest

/-- The steps of the calls from the start of the clock, each with the state of the service
after it. -/
def session (manager : Manager) (service : Service State) (rounds : Nat) (state : State)
    (calls : List Call) : List (Step × State) :=
  Session.calls manager service rounds ⟨state, .start, []⟩ calls

end CertSteward.Manager
