import CertSteward.Duration
import CertSteward.Waiter

/-!
# Managing certificates

A manager creates, deletes and reads the certificates of one project.
Creating and deleting ask for the change once and then wait for the operation
that the answer names; a request that is turned away is not waited for.
-/

namespace CertSteward

set_option autoImplicit false

structure Manager where
  project : String
  waiter : Waiter
deriving DecidableEq, Repr

namespace Manager

def new (project : String) : Manager :=
  ⟨project, .new project⟩

def withPollInterval (manager : Manager) (interval : Nat) : Manager :=
  { manager with waiter := manager.waiter.withInterval interval }

def withProgress (manager : Manager) : Manager :=
  { manager with waiter := manager.waiter.withProgress }

def pollInterval (manager : Manager) : Nat :=
  manager.waiter.interval

/-- The manager as shown: its project and its interval. -/
def describe (manager : Manager) : String :=
  "CertificateManager \x7b project_id: " ++ Text.quoted manager.project ++
    ", poll_interval: " ++ Duration.shown manager.pollInterval ++ ", .. \x7d"

def logEntry (level : LogLevel) (message : String) (fields : List (String × String)) :
    TraceEntry :=
  .log ⟨level, "managed_certs::manager", message, fields⟩

variable {State : Type}

/-- Waits for the operation that a change was answered with. -/
def settle (manager : Manager) (service : Service State) (rounds : Nat) (context : Context)
    (change : Run State ApiError Operation) : Run State StewardError Unit :=
  (change.mapError .api).andThen fun operation state timeline =>
    manager.waiter.wait service rounds context operation.name state timeline

def create (manager : Manager) (service : Service State) (rounds : Nat) (context : Context)
    (name : String) (domains : List String) (state : State) (timeline : Timeline) :
    Run State StewardError Unit :=
  let change := service.perform manager.project (.insert (.forDomains name domains)) state timeline
  (manager.settle service rounds context change).prepend
    [logEntry .info "Creating managed certificate"
      [("project", manager.project), ("certificate", name),
        ("domains", Text.quotedList domains)]]

def delete (manager : Manager) (service : Service State) (rounds : Nat) (context : Context)
    (name : String) (state : State) (timeline : Timeline) : Run State StewardError Unit :=
  let change := service.perform manager.project (.delete name) state timeline
  (manager.settle service rounds context change).prepend
    [logEntry .info "Deleting certificate" [("project", manager.project), ("certificate", name)]]

def get (manager : Manager) (service : Service State) (name : String) (state : State)
    (timeline : Timeline) : Run State StewardError Certificate :=
  (service.perform manager.project (.get name) state timeline).mapError .api

/-- Whether the certificate exists. Only the service itself can say that it does not; any other
failure is an error. -/
def isPresent (manager : Manager) (service : Service State) (name : String) (state : State)
    (timeline : Timeline) : Run State StewardError Bool :=
  let fetch := service.perform manager.project (.get name) state timeline
  match fetch.result with
  | some (.error error) =>
      if error.isNotFound then
        ⟨fetch.trace ++ [logEntry .debug "Certificate not found" [("certificate", name)]],
          some (.ok false), fetch.state, fetch.timeline⟩
      else ⟨fetch.trace, some (.error (.api error)), fetch.state, fetch.timeline⟩
  | some (.ok _) => ⟨fetch.trace, some (.ok true), fetch.state, fetch.timeline⟩
  | none => ⟨fetch.trace, none, fetch.state, fetch.timeline⟩

def list (manager : Manager) (service : Service State) (state : State) (timeline : Timeline) :
    Run State StewardError (List Certificate) :=
  let fetch : Run State ApiError CertificateList :=
    service.perform manager.project .list state timeline
  (fetch.mapError .api).map CertificateList.items

end Manager

end CertSteward
