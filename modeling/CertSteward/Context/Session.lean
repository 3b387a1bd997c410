import CertSteward.Mapping
import CertSteward.Timeline

/-!
# Sessions of named contexts

A run of steps on one timeline. Every step names the contexts and tokens that
it makes or uses; a step on a name that stands for nothing does nothing.
-/

namespace CertSteward.Context

set_option autoImplicit false

inductive Step where
  | newContext (name : String)
  | newToken (name : String)
  | childToken (name parent : String)
  /-- Names the token of a context. -/
  | tokenOf (name context : String)
  | fromToken (name token : String)
  | clone (name context : String)
  | withTimeout (name context : String) (timeout : Nat)
  | withDeadline (name context : String) (deadline : Nat)
  | deadline (context : String)
  | cancel (context : String)
  | cancelToken (token : String)
  | isTokenCancelled (token : String)
  | isCancelled (context : String)
  | error (context : String)
  | advance (milliseconds : Nat)
  | cancelLater (context : String) (delay : Nat)
  | done (context : String) (limit : Nat)
deriving DecidableEq, Repr

inductive Answer where
  | silent
  | flag (value : Bool)
  | instant (value : Option Nat)
  | reason (value : Option EndReason)
  | ended (reason : Option EndReason) (waited : Nat)
deriving DecidableEq, Repr

structure Session where
  timeline : Timeline
  contexts : Mapping Context
  tokens : Mapping Token
deriving DecidableEq, Repr

namespace Session

def start : Session :=
  ⟨.start, .empty, .empty⟩

def nameContext (session : Session) (name : String) (made : Context × Timeline) :
    Answer × Session :=
  (.silent,
    { session with timeline := made.2, contexts := session.contexts.insert name made.1 })

def nameToken (session : Session) (name : String) (made : Token × Timeline) : Answer × Session :=
  (.silent, { session with timeline := made.2, tokens := session.tokens.insert name made.1 })

def withContext (session : Session) (name : String) (act : Context → Answer × Session) :
    Answer × Session :=
  match session.contexts.get? name with
  | some context => act context
  | none => (.silent, session)

def withToken (session : Session) (name : String) (act : Token → Answer × Session) :
    Answer × Session :=
  match session.tokens.get? name with
  | some token => act token
  | none => (.silent, session)

def observe (session : Session) (context : Context) : Option EndReason × Session :=
  let (reason, timeline) := session.timeline.observe context
  (reason, { session with timeline := timeline })

def step (session : Session) : Step → Answer × Session
  | .newContext name => session.nameContext name session.timeline.newContext
  | .newToken name => session.nameToken name session.timeline.newToken
  | .childToken name parent => session.withToken parent fun token =>
      session.nameToken name (session.timeline.childToken token)
  | .tokenOf name context => session.withContext context fun context =>
      session.nameToken name (context.token, session.timeline)
  | .fromToken name token => session.withToken token fun token =>
      session.nameContext name (session.timeline.fromToken token)
  | .clone name context => session.withContext context fun context =>
      session.nameContext name (context, session.timeline)
  | .withTimeout name context timeout => session.withContext context fun context =>
      session.nameContext name (session.timeline.withTimeout context timeout)
  | .withDeadline name context deadline => session.withContext context fun context =>
      session.nameContext name (session.timeline.withDeadline context deadline)
  | .deadline context => session.withContext context fun context =>
      (.instant context.deadline, session)
  | .cancel context => session.withContext context fun context =>
      (.silent, { session with timeline := session.timeline.cancel context })
  | .cancelToken token => session.withToken token fun token =>
      (.silent, { session with timeline := session.timeline.cancelToken token })
  | .isTokenCancelled token => session.withToken token fun token =>
      (.flag (session.timeline.isTokenCancelled token), session)
  | .isCancelled context => session.withContext context fun context =>
      let (reason, session) := session.observe context
      (.flag reason.isSome, session)
  | .error context => session.withContext context fun context =>
      let (reason, session) := session.observe context
      (.reason reason, session)
  | .advance milliseconds =>
      (.silent, { session with timeline := session.timeline.pass milliseconds })
  | .cancelLater context delay => session.withContext context fun context =>
      (.silent, { session with timeline := session.timeline.schedule delay (.context context) })
  | .done context limit => session.withContext context fun context =>
      let (reason, timeline) := session.timeline.awaitEnd context (session.timeline.now + limit)
      (.ended reason (timeline.now - session.timeline.now),
        { session with timeline := timeline })

/-- The answers of a run, and the state it ends in. -/
def run (session : Session) : List Step → List Answer × Session
  | [] => ([], session)
  | step :: rest =>
      let (answer, session) := session.step step
      let (answers, session) := session.run rest
      (answer :: answers, session)

end Session

end CertSteward.Context
