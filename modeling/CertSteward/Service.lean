import CertSteward.Certificate
import CertSteward.Progress
import CertSteward.Timeline

/-!
# Calls to the certificate service

The five calls that the service answers, and the runs that are made of them.
A run keeps what happened in order: the calls with the instant at which each
was made, the progress events and the log. Runs are observed for a bounded
number of rounds; a run without a result is one that had not come to its end
by then.
-/

namespace CertSteward

set_option autoImplicit false

inductive Rpc where
  | insert (certificate : Certificate)
  | delete (name : String)
  | get (name : String)
  | list
  | operation (name : String)
deriving DecidableEq, Repr

/-- What a call is answered with when it succeeds. -/
def Rpc.Result : Rpc → Type
  | .insert _ => Operation
  | .delete _ => Operation
  | .get _ => Certificate
  | .list => CertificateList
  | .operation _ => Operation

structure Reply (α : Type) where
  /-- Nothing when the call had not ended after the observed rounds. -/
  result : Option (Except ApiError α)
  /-- How many milliseconds the call took. -/
  took : Nat
  log : List LogEntry

/-- A service: how it answers a call for a project in its present state. -/
structure Service (State : Type) where
  call : String → (rpc : Rpc) → State → Reply rpc.Result × State

inductive TraceEntry where
  | call (project : String) (rpc : Rpc) (instant : Nat)
  | event (event : ProgressEvent)
  | log (entry : LogEntry)
deriving DecidableEq, Repr

structure Run (State Error α : Type) where
  trace : List TraceEntry
  result : Option (Except Error α)
  state : State
  timeline : Timeline

namespace Run

variable {State Error Other α β : Type}

def calls (run : Run State Error α) : List (String × Rpc × Nat) :=
  run.trace.filterMap fun
    | .call project rpc instant => some (project, rpc, instant)
    | _ => none

def events (run : Run State Error α) : List ProgressEvent :=
  run.trace.filterMap fun
    | .event event => some event
    | _ => none

def logs (run : Run State Error α) : List LogEntry :=
  run.trace.filterMap fun
    | .log entry => some entry
    | _ => none

/-- A run at its end. -/
def stop (result : Except Error α) (state : State) (timeline : Timeline) :
    Run State Error α :=
  ⟨[], some result, state, timeline⟩

/-- Entries that come before everything in the run. -/
def prepend (entries : List TraceEntry) (run : Run State Error α) : Run State Error α :=
  { run with trace := entries ++ run.trace }

def mapError (wrap : Error → Other) (run : Run State Error α) : Run State Other α :=
  ⟨run.trace, run.result.map fun result => result.mapError wrap, run.state, run.timeline⟩

def map (f : α → β) (run : Run State Error α) : Run State Error β :=
  ⟨run.trace, run.result.map fun result => result.map f, run.state, run.timeline⟩

/-- Goes on after a success. -/
def andThen (run : Run State Error α) (next : α → State → Timeline → Run State Error β) :
    Run State Error β :=
  match run.result with
  | none => ⟨run.trace, none, run.state, run.timeline⟩
  | some (.error error) => ⟨run.trace, some (.error error), run.state, run.timeline⟩
  | some (.ok value) => (next value run.state run.timeline).prepend run.trace

end Run

/-- Makes one call and lets the clock run while it lasts. -/
def Service.perform {State : Type} (service : Service State) (project : String) (rpc : Rpc)
    (state : State) (timeline : Timeline) : Run State ApiError rpc.Result :=
  let (reply, next) := service.call project rpc state
  ⟨.call project rpc timeline.now :: reply.log.map .log, reply.result, next,
    timeline.pass reply.took⟩

end CertSteward
