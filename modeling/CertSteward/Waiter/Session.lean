import CertSteward.Context.Plan
import CertSteward.Waiter

/-!
# Sessions of waits

Waits one after the other on one timeline and one service. After each wait
its context is asked how it stands.
-/

namespace CertSteward.Waiter

set_option autoImplicit false

structure Call where
  operation : String
  context : Context.Plan
deriving DecidableEq, Repr

structure Step where
  trace : List TraceEntry
  result : Option (Except StewardError Unit)
  elapsed : Nat
  /-- What the context reports afterwards. -/
  ended : Option EndReason

structure Session (State : Type) where
  state : State
  timeline : Timeline
  contexts : List Context

variable {State : Type}

def Session.call (waiter : Waiter) (service : Service State) (rounds : Nat)
    (session : Session State) (call : Call) : Step × Session State :=
  let (context, timeline) := call.context.make session.contexts session.timeline
  let run := waiter.wait service rounds context call.operation session.state timeline
  let (ended, after) := run.timeline.observe context
  (⟨run.trace, run.result, run.timeline.now - timeline.now, ended⟩,
    ⟨run.state, after, session.contexts ++ [context]⟩)

def Session.calls (waiter : Waiter) (service : Service State) (rounds : Nat) :
    Session State → List Call → List Step
  | _, [] => []
  | session, call :: rest =>
      let (step, session) := session.call waiter service rounds call
      step :: Session.calls waiter service rounds session rest

/-- The steps of the calls from the start of the clock. -/
def session (waiter : Waiter) (service : Service State) (rounds : Nat) (state : State)
    (calls : List Call) : List Step :=
  Session.calls waiter service rounds ⟨state, .start, []⟩ calls

end CertSteward.Waiter
