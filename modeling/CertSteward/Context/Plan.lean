import CertSteward.Timeline

/-!
# Contexts made for calls

How the context of a call is made from those of earlier calls: taken over or
new, then bounded, cancelled at once, or set to be cancelled later. What is
scheduled stays scheduled when the call has ended.
-/

namespace CertSteward.Context

set_option autoImplicit false

structure Plan where
  /-- The call whose context is taken over. -/
  reuse : Option Nat
  timeout : Option Nat
  cancelled : Bool
  cancelAfter : Option Nat
  cancelTokenAfter : Option Nat
deriving DecidableEq, Repr

namespace Plan

def base (plan : Plan) (earlier : List Context) (timeline : Timeline) : Context × Timeline :=
  match plan.reuse.bind fun index => earlier[index]? with
  | some context => (context, timeline)
  | none => timeline.newContext

def bound (plan : Plan) (context : Context) (timeline : Timeline) : Context × Timeline :=
  match plan.timeout with
  | some timeout => timeline.withTimeout context timeout
  | none => (context, timeline)

def cancelNow (plan : Plan) (context : Context) (timeline : Timeline) : Timeline :=
  if plan.cancelled then timeline.cancel context else timeline

def scheduleCancel (plan : Plan) (context : Context) (timeline : Timeline) : Timeline :=
  match plan.cancelAfter with
  | some delay => timeline.schedule delay (.context context)
  | none => timeline

def scheduleTokenCancel (plan : Plan) (context : Context) (timeline : Timeline) : Timeline :=
  match plan.cancelTokenAfter with
  | some delay => timeline.schedule delay (.token context.token)
  | none => timeline

/-- The planned context, and the timeline on which it lives. -/
def make (plan : Plan) (earlier : List Context) (timeline : Timeline) : Context × Timeline :=
  let (context, timeline) := plan.base earlier timeline
  let (context, timeline) := plan.bound context timeline
  let timeline := plan.cancelNow context timeline
  let timeline := plan.scheduleCancel context timeline
  (context, plan.scheduleTokenCancel context timeline)

end Plan

end CertSteward.Context
