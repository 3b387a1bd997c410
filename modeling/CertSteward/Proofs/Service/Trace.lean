import CertSteward.Proofs.Timeline.Clock
import CertSteward.Service

/-!
# What stands in a trace

Only a call to the service leaves a call in the trace of a run; events and log
entries leave none. Every call is kept with the instant at which it was made.
The events and the log of a run are what is left of its trace without the rest.
-/

namespace CertSteward

set_option autoImplicit false

namespace TraceEntry

def callsIn (entries : List TraceEntry) : List (String × Rpc × Nat) :=
  entries.filterMap fun
    | .call project rpc instant => some (project, rpc, instant)
    | _ => none

@[simp] theorem calls_in_nil : callsIn [] = [] := rfl

@[simp] theorem calls_in_call (project : String) (rpc : Rpc) (instant : Nat)
    (rest : List TraceEntry) :
    callsIn (.call project rpc instant :: rest) = (project, rpc, instant) :: callsIn rest := rfl

@[simp] theorem calls_in_event (event : ProgressEvent) (rest : List TraceEntry) :
    callsIn (.event event :: rest) = callsIn rest := rfl

@[simp] theorem calls_in_log (entry : LogEntry) (rest : List TraceEntry) :
    callsIn (.log entry :: rest) = callsIn rest := rfl

@[simp] theorem calls_in_append (earlier later : List TraceEntry) :
    callsIn (earlier ++ later) = callsIn earlier ++ callsIn later :=
  List.filterMap_append

@[simp] theorem calls_in_logs (entries : List LogEntry) :
    callsIn (entries.map TraceEntry.log) = [] := by
  induction entries with
  | nil => rfl
  | cons entry rest ih => simpa using ih

def event? : TraceEntry → Option ProgressEvent
  | .event reported => some reported
  | _ => none

def log? : TraceEntry → Option LogEntry
  | .log written => some written
  | _ => none

section

variable (project : String) (rpc : Rpc) (instant : Nat) (event : ProgressEvent) (entry : LogEntry)

@[simp] theorem event_of_call : (call project rpc instant).event? = none := rfl

@[simp] theorem event_of_event : (TraceEntry.event event).event? = some event := rfl

@[simp] theorem event_of_log : (log entry).event? = none := rfl

@[simp] theorem log_of_call : (call project rpc instant).log? = none := rfl

@[simp] theorem log_of_event : (TraceEntry.event event).log? = none := rfl

@[simp] theorem log_of_log : (log entry).log? = some entry := rfl

end

@[simp] theorem log_comp_log : log? ∘ log = some := rfl

@[simp] theorem events_in_logs (entries : List LogEntry) :
    (entries.map log).filterMap event? = [] := by
  induction entries with
  | nil => rfl
  | cons entry rest ih => exact ih

/-- The entries that are there whether or not anyone listens. -/
def unreported (entries : List TraceEntry) : List TraceEntry :=
  entries.filter fun entry => entry.event?.isNone

@[simp] theorem unreported_append (earlier later : List TraceEntry) :
    unreported (earlier ++ later) = unreported earlier ++ unreported later :=
  List.filter_append ..

@[simp] theorem unreported_event (event : ProgressEvent) (rest : List TraceEntry) :
    unreported (.event event :: rest) = unreported rest := rfl

@[simp] theorem unreported_call (project : String) (rpc : Rpc) (instant : Nat)
    (rest : List TraceEntry) :
    unreported (.call project rpc instant :: rest) =
      .call project rpc instant :: unreported rest := rfl

@[simp] theorem unreported_log (entry : LogEntry) (rest : List TraceEntry) :
    unreported (.log entry :: rest) = .log entry :: unreported rest := rfl

@[simp] theorem unreported_logs (entries : List LogEntry) :
    unreported (entries.map log) = entries.map log := by
  induction entries with
  | nil => rfl
  | cons entry rest ih => simp [ih]

theorem calls_in_unreported (entries : List TraceEntry) :
    callsIn (unreported entries) = callsIn entries := by
  induction entries with
  | nil => rfl
  | cons entry rest ih => cases entry <;> simp [ih]

theorem logs_in_unreported (entries : List TraceEntry) :
    (unreported entries).filterMap log? = entries.filterMap log? := by
  induction entries with
  | nil => rfl
  | cons entry rest ih => cases entry <;> simp [List.filterMap_cons, ih]

theorem events_in_unreported (entries : List TraceEntry) :
    (unreported entries).filterMap event? = [] := by
  induction entries with
  | nil => rfl
  | cons entry rest ih => cases entry <;> simpa using ih

end TraceEntry

namespace Run

variable {State Error Other α β : Type}

theorem calls_eq (run : Run State Error α) : run.calls = TraceEntry.callsIn run.trace := rfl

theorem events_eq (run : Run State Error α) :
    run.events = run.trace.filterMap TraceEntry.event? := rfl

theorem logs_eq (run : Run State Error α) :
    run.logs = run.trace.filterMap TraceEntry.log? := rfl

@[simp] theorem calls_prepend (entries : List TraceEntry) (run : Run State Error α) :
    (run.prepend entries).calls = TraceEntry.callsIn entries ++ run.calls :=
  TraceEntry.calls_in_append entries run.trace

theorem events_prepend (entries : List TraceEntry) (run : Run State Error α) :
    (run.prepend entries).events = entries.filterMap TraceEntry.event? ++ run.events :=
  List.filterMap_append

@[simp] theorem calls_map (f : α → β) (run : Run State Error α) :
    (run.map f).calls = run.calls := rfl

@[simp] theorem result_prepend (entries : List TraceEntry) (run : Run State Error α) :
    (run.prepend entries).result = run.result := rfl

@[simp] theorem state_prepend (entries : List TraceEntry) (run : Run State Error α) :
    (run.prepend entries).state = run.state := rfl

@[simp] theorem timeline_prepend (entries : List TraceEntry) (run : Run State Error α) :
    (run.prepend entries).timeline = run.timeline := rfl

def succeeded (run : Run State Error Unit) : Bool :=
  match run.result with
  | some (.ok ()) => true
  | _ => false

theorem succeeded_iff (run : Run State Error Unit) :
    run.succeeded = true ↔ run.result = some (.ok ()) := by
  unfold succeeded
  constructor
  · intro ended
    split at ended
    · assumption
    · contradiction
  · intro ended
    rw [ended]

instance (run : Run State Error Unit) : Decidable (run.result = some (.ok ())) :=
  decidable_of_iff _ run.succeeded_iff

/-- What goes on after a success ends well only if both parts do. -/
theorem and_then_ok {run : Run State Error α} {next : α → State → Timeline → Run State Error β}
    {value : β} (succeeded : (run.andThen next).result = some (.ok value)) :
    ∃ first, run.result = some (.ok first) ∧
      (next first run.state run.timeline).result = some (.ok value) ∧
      (run.andThen next).state = (next first run.state run.timeline).state := by
  obtain ⟨trace, result, state, timeline⟩ := run
  cases result with
  | none => contradiction
  | some outcome =>
      cases outcome with
      | error error => cases succeeded
      | ok first => exact ⟨first, rfl, succeeded, rfl⟩

theorem map_error_ok {run : Run State Error α} {wrap : Error → Other} {value : α}
    (succeeded : (run.mapError wrap).result = some (.ok value)) :
    run.result = some (.ok value) := by
  obtain ⟨trace, result, state, timeline⟩ := run
  cases result with
  | none => contradiction
  | some outcome =>
      cases outcome with
      | error error => cases succeeded
      | ok first =>
          cases succeeded
          rfl

end Run

namespace Service

variable {State : Type} (service : Service State) (project : String) (rpc : Rpc) (state : State)
  (timeline : Timeline)

@[simp] theorem perform_result :
    (service.perform project rpc state timeline).result =
      (service.call project rpc state).1.result := rfl

@[simp] theorem perform_state :
    (service.perform project rpc state timeline).state =
      (service.call project rpc state).2 := rfl

@[simp] theorem perform_timeline :
    (service.perform project rpc state timeline).timeline =
      timeline.pass (service.call project rpc state).1.took := rfl

@[simp] theorem calls_perform :
    (service.perform project rpc state timeline).calls = [(project, rpc, timeline.now)] := by
  simp [perform, Run.calls_eq]

@[simp] theorem events_perform :
    (service.perform project rpc state timeline).events = [] := by
  simp [perform, Run.events_eq, List.filterMap_cons]

@[simp] theorem calls_in_perform :
    TraceEntry.callsIn (service.perform project rpc state timeline).trace =
      [(project, rpc, timeline.now)] := by
  simp [perform]

end Service

end CertSteward
