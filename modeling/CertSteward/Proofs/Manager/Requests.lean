import CertSteward.Certificate.Json
import CertSteward.Proofs.Manager.Changes
import CertSteward.Proofs.Manager.Success
import CertSteward.Proofs.Timeline.Cancelling
import CertSteward.Proofs.Waiter.Truncation

/-!
# What a manager asks of the service

Every request to a manager makes its own call once and at once. Only a change
that is granted is followed by more calls, all of them fetches of the operation
it was answered with, and a cancellation can only take some of these away.
-/

namespace CertSteward

set_option autoImplicit false

variable {State : Type}

namespace Waiter

variable {waiter : Waiter} {service : Service State} {operation : String} {state : State}
  {more less : Timeline}

theorem yields_first_of_forestalls (forestalls : more.Forestalls less) (context : Context) :
    waiter.YieldsFirst service operation state context more context less := by
  intro number _ decides
  rw [decides_iff] at decides ⊢
  apply Or.imp_right _ decides
  intro ends
  have forward : less.now ≤ waiter.arrivalInstant service operation number state less.now :=
    Nat.le_trans (fetch_instant_ge waiter service operation number state less.now)
      (Nat.le_add_right _ _)
  unfold arrival at ends ⊢
  rw [forestalls.now]
  exact forestalls.ends_by forward (Nat.le_add_right _ _) ends

theorem calls_of_forestalled_wait (forestalls : more.Forestalls less) (rounds : Nat)
    (context : Context) :
    (waiter.wait service rounds context operation state more).calls <+:
      (waiter.wait service rounds context operation state less).calls :=
  calls_begin_alike forestalls.now (yields_first_of_forestalls forestalls context) rounds

theorem mem_calls_of_wait {rounds : Nat} {context : Context} {timeline : Timeline}
    {call : String × Rpc × Nat}
    (member : call ∈ (waiter.wait service rounds context operation state timeline).calls) :
    ∃ instant, call = (waiter.project, .operation operation, instant) := by
  rw [(waiter.wait_trace service operation rounds context state timeline).2, fetches,
    List.mem_map] at member
  obtain ⟨number, _, rfl⟩ := member
  exact ⟨_, rfl⟩

end Waiter

namespace Manager

namespace Request

def rpc : Request → Rpc
  | .create name domains => .insert (.forDomains name domains)
  | .delete name => .delete name
  | .isPresent name => .get name
  | .get name => .get name
  | .list => .list

def isChange : Request → Bool
  | .create _ _ => true
  | .delete _ => true
  | _ => false

/-- Whether calls are those of a request for a project: its own call and, behind the call for a
change, fetches of one operation. -/
def Asks (project : String) (request : Request) (calls : List (String × Rpc × Nat)) : Prop :=
  ∃ instant operation fetches, calls = (project, request.rpc, instant) :: fetches ∧
    (∀ call ∈ fetches, ∃ instant, call = (project, .operation operation, instant)) ∧
    (request.isChange = false → fetches = [])

@[simp] theorem rpc_change (change : Change) : change.request.rpc = change.rpc := by
  cases change <;> rfl

@[simp] theorem is_change_change (change : Change) : change.request.isChange = true := by
  cases change <;> rfl

theorem change_or_read (request : Request) :
    (∃ change : Change, request = change.request) ∨ request.isChange = false := by
  cases request with
  | create name domains => exact Or.inl ⟨.create name domains, rfl⟩
  | delete name => exact Or.inl ⟨.delete name, rfl⟩
  | isPresent name => exact Or.inr rfl
  | get name => exact Or.inr rfl
  | list => exact Or.inr rfl

theorem asks_alone {project : String} {request : Request} (instant : Nat) :
    request.Asks project [(project, request.rpc, instant)] := by
  refine ⟨instant, "", [], rfl, ?_, fun _ => rfl⟩
  intro call member
  exact absurd member List.not_mem_nil

end Request

section

variable (manager : Manager) (service : Service State) (rounds : Nat) (context : Context)
  (state : State) (timeline : Timeline)

theorem perform_change (change : Change) :
    manager.perform service rounds change.request context state timeline =
      (manager.carryOut service rounds context state timeline change).map fun _ => .done := by
  cases change <;> rfl

theorem calls_of_change (change : Change) :
    (manager.perform service rounds change.request context state timeline).calls =
      (manager.carryOut service rounds context state timeline change).calls := by
  rw [perform_change, Run.calls_map]

/-- Whether a certificate is there is found out by a fetch of it and nothing else. -/
theorem is_present_trace (name : String) :
    let fetch := service.perform manager.project (.get name) state timeline
    let run := manager.isPresent service name state timeline
    run.calls = fetch.calls ∧ run.events = fetch.events := by
  intro fetch run
  have extended : ∃ entries, run.trace = fetch.trace ++ entries ∧
      TraceEntry.callsIn entries = [] ∧ entries.filterMap TraceEntry.event? = [] := by
    unfold run isPresent
    dsimp only
    split
    · split
      · exact ⟨_, rfl, rfl, rfl⟩
      · exact ⟨[], (List.append_nil _).symm, rfl, rfl⟩
    · exact ⟨[], (List.append_nil _).symm, rfl, rfl⟩
    · exact ⟨[], (List.append_nil _).symm, rfl, rfl⟩
  obtain ⟨entries, trace, noCalls, noEvents⟩ := extended
  constructor
  · rw [Run.calls_eq, trace, TraceEntry.calls_in_append, noCalls, List.append_nil, Run.calls_eq]
  · rw [Run.events_eq, trace, List.filterMap_append, noEvents, List.append_nil, Run.events_eq]

/-- A request that changes nothing is one call. -/
theorem read_asks_once {request : Request} (reads : request.isChange = false) :
    let run := manager.perform service rounds request context state timeline
    run.calls = [(manager.project, request.rpc, timeline.now)] ∧ run.events = [] := by
  cases request with
  | create name domains => contradiction
  | delete name => contradiction
  | isPresent name =>
      obtain ⟨calls, events⟩ := manager.is_present_trace service state timeline name
      exact ⟨calls.trans (service.calls_perform _ _ _ _),
        events.trans (service.events_perform _ _ _ _)⟩
  | get name => exact ⟨service.calls_perform _ _ _ _, service.events_perform _ _ _ _⟩
  | list => exact ⟨service.calls_perform _ _ _ _, service.events_perform _ _ _ _⟩

theorem calls_of_request {project : String} (built : Built project manager) (request : Request) :
    request.Asks project
      (manager.perform service rounds request context state timeline).calls := by
  rcases request.change_or_read with ⟨change, rfl⟩ | reads
  · rw [calls_of_change, calls_carry_out, built.projects.1]
    split
    · rename_i operation _
      refine ⟨timeline.now, operation.name, _, by rw [Request.rpc_change], ?_, by simp⟩
      intro call member
      rw [← built.projects.2]
      exact Waiter.mem_calls_of_wait member
    · rw [← Request.rpc_change]
      exact Request.asks_alone timeline.now
  · rw [(manager.read_asks_once service rounds context state timeline reads).1,
      built.projects.1]
    exact Request.asks_alone timeline.now

/-- A change that is turned away is over with its own call. -/
theorem refused_change_asks_once {change : Change} {cause : ApiError}
    (refused : (change.answer service manager.project state).1.result = some (.error cause)) :
    let answer := change.answer service manager.project state
    let run := manager.carryOut service rounds context state timeline change
    run.result = some (.error (.api cause)) ∧
      run.calls = [(manager.project, change.rpc, timeline.now)] ∧ run.events = [] ∧
      run.state = answer.2 ∧ run.timeline = timeline.pass answer.1.took := by
  intro answer run
  have whole : run = _ := carry_out_refused rounds context timeline refused
  have asked := change.calls_in_entries service manager.project state timeline
  have silent := change.events_in_entries service manager.project state timeline
  rw [whole]
  exact ⟨rfl, asked, silent, rfl, rfl⟩

/-- A change that is never answered has no result and makes no other call. -/
theorem unanswered_change_asks_once {change : Change}
    (unanswered : (change.answer service manager.project state).1.result = none) :
    let run := manager.carryOut service rounds context state timeline change
    run.result = none ∧ run.calls = [(manager.project, change.rpc, timeline.now)] ∧
      run.events = [] := by
  intro run
  have whole : run = _ := carry_out_unanswered rounds context timeline unanswered
  have asked := change.calls_in_entries service manager.project state timeline
  have silent := change.events_in_entries service manager.project state timeline
  rw [whole]
  exact ⟨rfl, asked, silent⟩

/-- A change that is granted goes on as the wait for the operation that it was granted with. -/
theorem granted_change_is_wait {change : Change} {operation : Operation}
    (granted : (change.answer service manager.project state).1.result = some (.ok operation)) :
    let answer := change.answer service manager.project state
    let run := manager.carryOut service rounds context state timeline change
    let waited := manager.waiter.wait service rounds context operation.name answer.2
      (timeline.pass answer.1.took)
    run.calls = (manager.project, change.rpc, timeline.now) :: waited.calls ∧
      run.result = waited.result ∧ run.events = waited.events ∧
      run.state = waited.state ∧ run.timeline = waited.timeline := by
  intro answer run waited
  have whole : run = waited.prepend _ := carry_out_granted rounds context timeline granted
  have asked := change.calls_in_entries service manager.project state timeline
  have silent := change.events_in_entries service manager.project state timeline
  constructor
  · rw [whole, Run.calls_prepend, asked, List.singleton_append]
  · rw [whole, Run.events_prepend, silent, List.nil_append]
    exact ⟨rfl, rfl, rfl, rfl⟩

/-- Each call of a session makes the calls of its request and no others. -/
theorem calls_of_session {project : String} (built : Built project manager)
    (session : Session State) (calls : List Call) :
    List.Forall₂ (fun call step => call.request.Asks project (TraceEntry.callsIn step.1.trace))
      calls (Session.calls manager service rounds session calls) := by
  induction calls generalizing session with
  | nil => exact .nil
  | cons call rest ih =>
      apply List.Forall₂.cons _ (ih _)
      exact manager.calls_of_request service rounds _ session.state _ built call.request

end

variable {manager : Manager} {service : Service State} {more less : Timeline}

theorem calls_of_forestalled_change (forestalls : more.Forestalls less) (rounds : Nat)
    (context : Context) (state : State) (change : Change) :
    (manager.carryOut service rounds context state more change).calls <+:
      (manager.carryOut service rounds context state less change).calls := by
  rw [calls_carry_out, calls_carry_out, forestalls.now, List.cons_prefix_cons]
  constructor
  · rfl
  · split
    · apply Waiter.calls_of_forestalled_wait
      exact forestalls.pass _
    · exact List.prefix_rfl

theorem calls_of_forestalled_request (forestalls : more.Forestalls less) (rounds : Nat)
    (context : Context) (state : State) (request : Request) :
    (manager.perform service rounds request context state more).calls <+:
      (manager.perform service rounds request context state less).calls := by
  rcases request.change_or_read with ⟨change, rfl⟩ | reads
  · rw [calls_of_change, calls_of_change]
    exact calls_of_forestalled_change forestalls rounds context state change
  · have asked := (manager.read_asks_once service rounds context state more reads).1
    have alike := (manager.read_asks_once service rounds context state less reads).1
    simp only [asked, alike, forestalls.now, List.prefix_rfl]

/-- Whatever is asked of a manager, in whatever order and with whatever contexts, every call is for
its project, each change is asked for exactly once and before all else, and each read is one call.
A change that is turned away is over with that; one that is granted is the wait for the operation
that it was granted with, from the instant of the answer. To cancel, now or later, never adds a
call. -/
theorem requests_are_asked_once {project : String} {manager : Manager}
    (built : Built project manager) (service : Service State) (rounds : Nat) :
    (∀ (session : Session State) (calls : List Call),
      List.Forall₂ (fun call step => call.request.Asks project (TraceEntry.callsIn step.1.trace))
        calls (Session.calls manager service rounds session calls)) ∧
    (∀ (name : String) (domains : List String),
      (Request.create name domains).rpc =
          .insert ⟨name, .managed, some ⟨domains, none, Mapping.empty⟩, none, none, none, none,
            none, []⟩ ∧
        (Certificate.forDomains name domains).encode =
          .object [("name", .text name), ("type", .text "MANAGED"),
            ("managed", .object [("domains", .texts domains)])]) ∧
    (∀ (change : Change) (context : Context) (state : State) (timeline : Timeline),
      let answer := change.answer service project state
      let answered := timeline.pass answer.1.took
      let run := manager.carryOut service rounds context state timeline change
      (∀ cause, answer.1.result = some (.error cause) →
        run.result = some (.error (.api cause)) ∧
          run.calls = [(project, change.rpc, timeline.now)] ∧ run.events = [] ∧
          run.state = answer.2 ∧ run.timeline = answered) ∧
      (answer.1.result = none →
        run.result = none ∧ run.calls = [(project, change.rpc, timeline.now)] ∧
          run.events = []) ∧
      (∀ operation, answer.1.result = some (.ok operation) →
        let waited := manager.waiter.wait service rounds context operation.name answer.2 answered
        run.calls = (project, change.rpc, timeline.now) :: waited.calls ∧
          (∀ call ∈ waited.calls,
            ∃ instant, call = (project, .operation operation.name, instant)) ∧
          run.result = waited.result ∧ run.events = waited.events ∧
          run.state = waited.state ∧ run.timeline = waited.timeline)) ∧
    (∀ (request : Request) (context : Context) (state : State) (timeline : Timeline),
      request.isChange = false →
        let run := manager.perform service rounds request context state timeline
        run.calls = [(project, request.rpc, timeline.now)] ∧ run.events = []) ∧
    (∀ (request : Request) (context : Context) (state : State) (timeline : Timeline)
      (target : AlarmTarget),
      let calls := (manager.perform service rounds request context state timeline).calls
      (manager.perform service rounds request context state (timeline.fire target)).calls <+:
          calls ∧
        ∀ delay, (manager.perform service rounds request context state
          (timeline.schedule delay target)).calls <+: calls) := by
  obtain ⟨rfl, waits⟩ := built.projects
  refine ⟨manager.calls_of_session service rounds built, fun _ _ => ⟨rfl, rfl⟩, ?_, ?_, ?_⟩
  · intro change context state timeline answer answered run
    refine ⟨?_, ?_, ?_⟩
    · intro cause refused
      exact manager.refused_change_asks_once service rounds context state timeline refused
    · intro unanswered
      exact manager.unanswered_change_asks_once service rounds context state timeline unanswered
    · intro operation granted waited
      obtain ⟨asked, goesOn⟩ :=
        manager.granted_change_is_wait service rounds context state timeline granted
      refine ⟨asked, ?_, goesOn⟩
      intro call member
      rw [← waits]
      exact Waiter.mem_calls_of_wait member
  · intro request context state timeline reads
    exact manager.read_asks_once service rounds context state timeline reads
  · intro request context state timeline target
    constructor
    · apply calls_of_forestalled_request
      exact timeline.fire_forestalls target
    · intro delay
      apply calls_of_forestalled_request
      exact timeline.schedule_forestalls delay target

def lastingCreation : Script :=
  ⟨[⟨.value (.object [("name", .text "op"), ("status", .text "PENDING")]), 4, 1⟩], [], [], [],
    [⟨.value (.object [("name", .text "op"), ("status", .text "RUNNING")]), 3, 5⟩]⟩

/-- A context that is cancelled beforehand takes away all fetches but the first, and not the call
for the creation. -/
theorem cancelled_creation_is_asked_once :
    let manager := (Manager.new "p").withPollInterval 0
    let context := Timeline.start.newContext.1
    let timeline := Timeline.start.newContext.2
    let cancelled := manager.perform Script.service 3 (.create "c" ["a", "a"]) context
      lastingCreation (timeline.fire (.context context))
    let free := manager.perform Script.service 3 (.create "c" ["a", "a"]) context
      lastingCreation timeline
    cancelled.calls =
        [("p", .insert (.forDomains "c" ["a", "a"]), 0), ("p", .operation "op", 4)] ∧
      free.calls.length = 4 ∧ cancelled.calls <+: free.calls := by
  intro manager context timeline cancelled free
  obtain ⟨_, _, _, _, truncated⟩ :=
    requests_are_asked_once (.withPollInterval 0 .new) Script.service 3
  exact ⟨by decide, by decide,
    (truncated (.create "c" ["a", "a"]) context lastingCreation timeline (.context context)).1⟩

end Manager

end CertSteward
