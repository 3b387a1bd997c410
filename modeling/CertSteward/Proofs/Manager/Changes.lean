import CertSteward.Manager.Session
import CertSteward.Proofs.Service.Trace

/-!
# Changes

A certificate is created and deleted in the same way. The service is asked for
the change; if it turns the change away, that is the end of it, and if it
grants an operation, what is left of the run is the wait for that operation.
-/

namespace CertSteward

set_option autoImplicit false

inductive Change where
  | create (name : String) (domains : List String)
  | delete (name : String)
deriving DecidableEq, Repr

variable {State : Type}

namespace Change

def rpc : Change → Rpc
  | .create name domains => .insert (.forDomains name domains)
  | .delete name => .delete name

def request : Change → Manager.Request
  | .create name domains => .create name domains
  | .delete name => .delete name

/-- The answer to the call, and the state of the service after it. -/
def answer (service : Service State) (project : String) (state : State) :
    Change → Reply Operation × State
  | .create name domains => service.call project (.insert (.forDomains name domains)) state
  | .delete name => service.call project (.delete name) state

def send (change : Change) (service : Service State) (project : String) (state : State)
    (timeline : Timeline) : Run State ApiError Operation :=
  let answer := change.answer service project state
  ⟨.call project change.rpc timeline.now :: answer.1.log.map .log, answer.1.result, answer.2,
    timeline.pass answer.1.took⟩

def announcement (project : String) : Change → TraceEntry
  | .create name domains =>
      Manager.logEntry .info "Creating managed certificate"
        [("project", project), ("certificate", name), ("domains", Text.quotedList domains)]
  | .delete name =>
      Manager.logEntry .info "Deleting certificate" [("project", project), ("certificate", name)]

/-- What a change leaves in the trace until it is answered. -/
def entries (change : Change) (service : Service State) (project : String) (state : State)
    (timeline : Timeline) : List TraceEntry :=
  change.announcement project :: (change.send service project state timeline).trace

section

variable (change : Change) (service : Service State) (project : String) (state : State)
  (timeline : Timeline)

@[simp] theorem calls_in_entries :
    TraceEntry.callsIn (change.entries service project state timeline) =
      [(project, change.rpc, timeline.now)] := by
  cases change <;> simp [entries, send, announcement, Manager.logEntry]

@[simp] theorem events_in_entries :
    (change.entries service project state timeline).filterMap TraceEntry.event? = [] := by
  cases change <;> simp [entries, send, announcement, Manager.logEntry, List.filterMap_cons]

end

end Change

namespace Manager

variable (manager : Manager) (service : Service State) (rounds : Nat) (context : Context)
  (state : State) (timeline : Timeline)

def carryOut : Change → Run State StewardError Unit
  | .create name domains => manager.create service rounds context name domains state timeline
  | .delete name => manager.delete service rounds context name state timeline

def waitAfter (change : Change) (operation : Operation) : Run State StewardError Unit :=
  let answer := change.answer service manager.project state
  manager.waiter.wait service rounds context operation.name answer.2
    (timeline.pass answer.1.took)

/-- The wait for a change in terms of the answer to the call that asks for it. -/
theorem settle_eq (sent : Run State ApiError Operation) :
    manager.settle service rounds context sent =
      match sent.result with
      | none => ⟨sent.trace, none, sent.state, sent.timeline⟩
      | some (.error cause) => ⟨sent.trace, some (.error (.api cause)), sent.state, sent.timeline⟩
      | some (.ok operation) =>
          (manager.waiter.wait service rounds context operation.name sent.state
            sent.timeline).prepend sent.trace := by
  obtain ⟨trace, result, state, timeline⟩ := sent
  cases result with
  | none => rfl
  | some outcome => cases outcome <;> rfl

theorem carry_out_eq (change : Change) :
    manager.carryOut service rounds context state timeline change =
      (manager.settle service rounds context
        (change.send service manager.project state timeline)).prepend
          [change.announcement manager.project] := by
  cases change <;> rfl

variable {manager service state} {change : Change}

/-- A change that is not answered is not waited for. -/
theorem carry_out_unanswered
    (silent : (change.answer service manager.project state).1.result = none) :
    let answer := change.answer service manager.project state
    manager.carryOut service rounds context state timeline change =
      ⟨change.entries service manager.project state timeline, none, answer.2,
        timeline.pass answer.1.took⟩ := by
  have answered : (change.send service manager.project state timeline).result =
      none := silent
  rw [carry_out_eq, settle_eq, answered]
  rfl

/-- A change that is turned away is not waited for. -/
theorem carry_out_refused {cause : ApiError}
    (refused : (change.answer service manager.project state).1.result = some (.error cause)) :
    let answer := change.answer service manager.project state
    manager.carryOut service rounds context state timeline change =
      ⟨change.entries service manager.project state timeline, some (.error (.api cause)),
        answer.2, timeline.pass answer.1.took⟩ := by
  have answered : (change.send service manager.project state timeline).result =
      some (.error cause) := refused
  rw [carry_out_eq, settle_eq, answered]
  rfl

/-- A change that is granted is over with the wait for its operation. -/
theorem carry_out_granted {operation : Operation}
    (granted : (change.answer service manager.project state).1.result = some (.ok operation)) :
    manager.carryOut service rounds context state timeline change =
      (manager.waitAfter service rounds context state timeline change operation).prepend
        (change.entries service manager.project state timeline) := by
  have answered : (change.send service manager.project state timeline).result =
      some (.ok operation) := granted
  rw [carry_out_eq, settle_eq, answered]
  rfl

/-- The call for the change is made first, and what follows it are the calls of the wait. -/
theorem calls_carry_out :
    (manager.carryOut service rounds context state timeline change).calls =
      (manager.project, change.rpc, timeline.now) ::
        match (change.answer service manager.project state).1.result with
        | some (.ok operation) =>
            (manager.waitAfter service rounds context state timeline change operation).calls
        | _ => [] := by
  cases answered : (change.answer service manager.project state).1.result with
  | none =>
      rw [carry_out_unanswered rounds context timeline answered]
      exact change.calls_in_entries service manager.project state timeline
  | some outcome =>
      cases outcome with
      | error cause =>
          rw [carry_out_refused rounds context timeline answered]
          exact change.calls_in_entries service manager.project state timeline
      | ok operation =>
          rw [carry_out_granted rounds context timeline answered, Run.calls_prepend,
            Change.calls_in_entries, List.singleton_append]

end Manager

end CertSteward
