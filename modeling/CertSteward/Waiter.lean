import CertSteward.Service

/-!
# Waiting for an operation

A waiter fetches the state of an operation until it is done, and sleeps for
its interval between two fetches. A context is looked at while the waiter
sleeps and at no other time: a fetch under way runs to its end, and what it
brings is acted on first.
-/

namespace CertSteward

set_option autoImplicit false

structure Waiter where
  project : String
  /-- The time between two fetches in nanoseconds. -/
  interval : Nat
  /-- Whether anyone listens to the progress events. -/
  reports : Bool
deriving DecidableEq, Repr

namespace Waiter

/-- Ten seconds. -/
def defaultInterval : Nat := 10000000000

/-- Ten milliseconds. -/
def leastInterval : Nat := 10000000

def new (project : String) : Waiter :=
  ⟨project, defaultInterval, false⟩

/-- Sets the interval, raised to the least one. -/
def withInterval (waiter : Waiter) (interval : Nat) : Waiter :=
  { waiter with interval := max interval leastInterval }

def withProgress (waiter : Waiter) : Waiter :=
  { waiter with reports := true }

/-- The length of a sleep: the interval in milliseconds, a part of one counting as whole. -/
def pause (waiter : Waiter) : Nat :=
  waiter.interval / 1000000 + if waiter.interval % 1000000 = 0 then 0 else 1

def event (waiter : Waiter) (event : ProgressEvent) : List TraceEntry :=
  if waiter.reports then [.event event] else []

def logEntry (level : LogLevel) (message : String) (fields : List (String × String)) :
    TraceEntry :=
  .log ⟨level, "managed_certs::waiter", message, fields⟩

def fetchEntry (waiter : Waiter) (operation : String) (attempt : Nat) : TraceEntry :=
  logEntry .debug "Wait for operation"
    [("project", waiter.project), ("operation", operation), ("attempt", toString attempt)]

def doneEntry (waiter : Waiter) (operation : String) : TraceEntry :=
  logEntry .info "Operation done" [("project", waiter.project), ("operation", operation)]

def failureEntries (waiter : Waiter) (operation : String) (error : StewardError) :
    List TraceEntry :=
  logEntry .debug "Operation wait ended" [("operation", operation), ("error", error.message)] ::
    waiter.event (.failed operation error.message)

variable {State : Type}

def fail (waiter : Waiter) (operation : String) (error : StewardError) (state : State)
    (timeline : Timeline) : Run State StewardError Unit :=
  (Run.stop (.error error) state timeline).prepend (waiter.failureEntries operation error)

def succeed (waiter : Waiter) (operation : String) (started : Nat) (state : State)
    (timeline : Timeline) : Run State StewardError Unit :=
  (Run.stop (.ok ()) state timeline).prepend
    (waiter.doneEntry operation ::
      waiter.event (.completed operation (timeline.now - started)))

/-- The fetches of a wait that began at an instant, at most `rounds` of them; `attempt` is the
number of the next one. -/
def poll (waiter : Waiter) (service : Service State) (context : Context) (operation : String)
    (started : Nat) : Nat → Nat → State → Timeline → Run State StewardError Unit
  | 0, _, state, timeline => ⟨[], none, state, timeline⟩
  | rounds + 1, attempt, state, timeline =>
      let fetch := service.perform waiter.project (.operation operation) state timeline
      let before := waiter.fetchEntry operation attempt :: fetch.trace
      match fetch.result with
      | none => ⟨before, none, fetch.state, fetch.timeline⟩
      | some (.error error) =>
          (waiter.fail operation (.operationPoll operation error) fetch.state
            fetch.timeline).prepend before
      | some (.ok reply) =>
          let reply : Operation := reply
          let before := before ++ waiter.event
            (.polling operation reply.status attempt (fetch.timeline.now - started))
          if reply.isDone then
            match reply.error with
            | none => (waiter.succeed operation started fetch.state fetch.timeline).prepend before
            | some _ =>
                (waiter.fail operation (.operation ⟨reply⟩) fetch.state fetch.timeline).prepend
                  before
          else
            match fetch.timeline.awaitEnd context (fetch.timeline.now + waiter.pause) with
            | (some reason, timeline) =>
                (waiter.fail operation (.ended reason) fetch.state timeline).prepend before
            | (none, timeline) =>
                (poll waiter service context operation started rounds (attempt + 1) fetch.state
                  timeline).prepend before

/-- Waits until the operation is done, fails or the context ends. -/
def wait (waiter : Waiter) (service : Service State) (rounds : Nat) (context : Context)
    (operation : String) (state : State) (timeline : Timeline) : Run State StewardError Unit :=
  (waiter.poll service context operation timeline.now rounds 1 state timeline).prepend
    (waiter.event (.started operation))

end Waiter

end CertSteward
