import CertSteward.Proofs.Waiter.Course
import Mathlib.Data.List.Basic

/-!
# Progress and log of a wait

What a wait reports and logs follows its fetches: an announcement, a report of
every reply that brings the operation, and one entry at the end that says how
the wait came out. A wait that nobody listens to goes the same way in silence.
-/

namespace CertSteward

set_option autoImplicit false

variable {State : Type}

/-- The time since the wait began, where an event tells it. -/
def ProgressEvent.elapsed? : ProgressEvent → Option Nat
  | .started _ => none
  | .polling _ _ _ elapsed => some elapsed
  | .completed _ elapsed => some elapsed
  | .failed _ _ => none

def Run.unreported {Error α : Type} (run : Run State Error α) : Run State Error α :=
  { run with trace := TraceEntry.unreported run.trace }

theorem Run.unreported_prepend {Error α : Type} (entries : List TraceEntry)
    (run : Run State Error α) :
    (run.prepend entries).unreported = run.unreported.prepend (TraceEntry.unreported entries) := by
  simp [Run.unreported, Run.prepend]

namespace Waiter

def closingEvent (operation : String) (elapsed : Nat) : Except StewardError Unit → ProgressEvent
  | .ok () => .completed operation elapsed
  | .error error => .failed operation error.message

def fetchLog (waiter : Waiter) (operation : String) (attempt : Nat) : LogEntry :=
  ⟨.debug, "managed_certs::waiter", "Wait for operation",
    [("project", waiter.project), ("operation", operation), ("attempt", toString attempt)]⟩

def closingLog (waiter : Waiter) (operation : String) : Except StewardError Unit → LogEntry
  | .ok () =>
      ⟨.info, "managed_certs::waiter", "Operation done",
        [("project", waiter.project), ("operation", operation)]⟩
  | .error error =>
      ⟨.debug, "managed_certs::waiter", "Operation wait ended",
        [("operation", operation), ("error", error.message)]⟩

def silent (waiter : Waiter) : Waiter :=
  { waiter with reports := false }

section

variable (waiter : Waiter) (service : Service State) (operation : String)

theorem events_in_waiter_event (listened : waiter.reports = true) (event : ProgressEvent) :
    (waiter.event event).filterMap TraceEntry.event? = [event] := by
  rw [Waiter.event, if_pos listened]
  rfl

@[simp] theorem logs_in_waiter_event (event : ProgressEvent) :
    (waiter.event event).filterMap TraceEntry.log? = [] := by
  unfold Waiter.event
  split <;> rfl

theorem events_in_visit (listened : waiter.reports = true) (started attempt : Nat)
    (state : State) (now number : Nat) :
    (waiter.visit service operation started attempt state now number).filterMap
        TraceEntry.event? =
      (polling? operation (number + attempt)
        (waiter.arrivalInstant service operation number state now - started)
        (waiter.reply service operation number state)).toList := by
  have heard (event : Option ProgressEvent) :
      (event.toList.flatMap waiter.event).filterMap TraceEntry.event? = event.toList := by
    cases event with
    | none => rfl
    | some event =>
        rw [Option.toList_some, List.flatMap_singleton]
        exact waiter.events_in_waiter_event listened event
  simp [visit, fetchEntry, logEntry, List.filterMap_cons, heard]

theorem logs_in_visit (started attempt : Nat) (state : State) (now number : Nat) :
    (waiter.visit service operation started attempt state now number).filterMap
        TraceEntry.log? =
      waiter.fetchLog operation (number + attempt) ::
        (waiter.reply service operation number state).log := by
  have silent (event : Option ProgressEvent) :
      (event.toList.flatMap waiter.event).filterMap TraceEntry.log? = [] := by
    cases event <;> simp
  simp [visit, fetchEntry, logEntry, fetchLog, silent, List.filterMap_cons]

theorem events_in_closing_entries (listened : waiter.reports = true) (elapsed : Nat)
    (result : Option (Except StewardError Unit)) :
    (waiter.closingEntries operation elapsed result).filterMap TraceEntry.event? =
      (result.map (closingEvent operation elapsed)).toList := by
  have heard := waiter.events_in_waiter_event listened
  unfold closingEntries
  split <;> simp [doneEntry, failureEntries, logEntry, closingEvent, List.filterMap_cons, heard]

theorem logs_in_closing_entries (elapsed : Nat) (result : Option (Except StewardError Unit)) :
    (waiter.closingEntries operation elapsed result).filterMap TraceEntry.log? =
      (result.map (waiter.closingLog operation)).toList := by
  unfold closingEntries
  split <;> simp [doneEntry, failureEntries, logEntry, closingLog]

theorem wait_events (listened : waiter.reports = true) (rounds : Nat) (context : Context)
    (state : State) (timeline : Timeline) :
    let run := waiter.wait service rounds context operation state timeline
    run.events =
      .started operation ::
        ((List.range run.calls.length).filterMap fun number =>
          polling? operation (number + 1)
            (waiter.arrivalInstant service operation number state timeline.now - timeline.now)
            (waiter.reply service operation number state)) ++
        (run.result.map (closingEvent operation (run.timeline.now - timeline.now))).toList := by
  intro run
  rw [Run.events_eq, (waiter.wait_trace service operation rounds context state timeline).1,
    List.filterMap_append, List.filterMap_append, waiter.events_in_waiter_event listened,
    waiter.events_in_closing_entries operation listened, List.filterMap_flatMap,
    List.filterMap_eq_flatMap_toList]
  simp only [waiter.events_in_visit service operation listened]
  rfl

theorem wait_logs (rounds : Nat) (context : Context) (state : State) (timeline : Timeline) :
    let run := waiter.wait service rounds context operation state timeline
    run.logs =
      ((List.range run.calls.length).flatMap fun number =>
          waiter.fetchLog operation (number + 1) ::
            (waiter.reply service operation number state).log) ++
        (run.result.map (waiter.closingLog operation)).toList := by
  intro run
  rw [Run.logs_eq, (waiter.wait_trace service operation rounds context state timeline).1,
    List.filterMap_append, List.filterMap_append, logs_in_waiter_event,
    logs_in_closing_entries, List.filterMap_flatMap, List.nil_append]
  simp only [logs_in_visit]
  rfl

@[simp] theorem unreported_waiter_event (event : ProgressEvent) :
    TraceEntry.unreported (waiter.event event) = [] := by
  unfold Waiter.event
  split <;> rfl

theorem unreported_fetch_entries (attempt : Nat) (state : State) (timeline : Timeline) :
    TraceEntry.unreported (waiter.fetchEntries service operation attempt state timeline) =
      waiter.fetchEntries service operation attempt state timeline := by
  simp [fetchEntries, fetchEntry, logEntry, Service.perform]

theorem unreported_fail (error : StewardError) (state : State) (timeline : Timeline) :
    (waiter.fail operation error state timeline).unreported =
      waiter.silent.fail operation error state timeline := by
  rw [fail, Run.unreported_prepend, failureEntries, logEntry, TraceEntry.unreported_log,
    unreported_waiter_event]
  rfl

theorem unreported_succeed (started : Nat) (state : State) (timeline : Timeline) :
    (waiter.succeed operation started state timeline).unreported =
      waiter.silent.succeed operation started state timeline := by
  rw [succeed, Run.unreported_prepend, doneEntry, logEntry, TraceEntry.unreported_log,
    unreported_waiter_event]
  rfl

theorem poll_unreported (context : Context) (started rounds attempt : Nat) (state : State)
    (timeline : Timeline) :
    (waiter.poll service context operation started rounds attempt state timeline).unreported =
      waiter.silent.poll service context operation started rounds attempt state timeline := by
  induction rounds generalizing attempt state timeline with
  | zero => rfl
  | succ rounds ih =>
      have reply : waiter.silent.reply service operation 0 state =
          waiter.reply service operation 0 state := rfl
      have next : waiter.silent.answer service operation state =
          waiter.answer service operation state := rfl
      have arrival : waiter.silent.arrival service operation 0 state timeline =
          waiter.arrival service operation 0 state timeline := rfl
      have wakeUp : waiter.silent.wakeUp service operation 0 state timeline.now =
          waiter.wakeUp service operation 0 state timeline.now := rfl
      have fetched : waiter.silent.fetchEntries service operation attempt state timeline =
          TraceEntry.unreported (waiter.fetchEntries service operation attempt state timeline) :=
        (waiter.unreported_fetch_entries service operation attempt state timeline).symm
      have unheard (event : ProgressEvent) : waiter.silent.event event = [] := rfl
      rw [poll_succ, poll_succ, reply, next, arrival, wakeUp, fetched]
      cases result : (waiter.reply service operation 0 state).result with
      | none => rfl
      | some outcome =>
          cases outcome with
          | error error => simp only [Run.unreported_prepend, unreported_fail]
          | ok current =>
              simp only [unheard, List.append_nil]
              split
              · split <;>
                  simp only [Run.unreported_prepend, TraceEntry.unreported_append,
                    unreported_waiter_event, List.append_nil, unreported_fail, unreported_succeed]
              · split <;>
                  simp only [Run.unreported_prepend, TraceEntry.unreported_append,
                    unreported_waiter_event, List.append_nil, unreported_fail, ih]

theorem wait_unreported (rounds : Nat) (context : Context) (state : State) (timeline : Timeline) :
    (waiter.wait service rounds context operation state timeline).unreported =
      waiter.silent.wait service rounds context operation state timeline := by
  rw [wait, Run.unreported_prepend, unreported_waiter_event, poll_unreported]
  rfl

theorem arrival_instant_mono {first second : Nat} (later : first ≤ second) (state : State)
    (started : Nat) :
    waiter.arrivalInstant service operation first state started ≤
      waiter.arrivalInstant service operation second state started := by
  induction later with
  | refl => exact Nat.le_refl _
  | @step second _ ih =>
      have fetched : waiter.arrivalInstant service operation second state started ≤
          waiter.fetchInstant service operation (second + 1) state started := by
        rw [← wake_up_eq_fetch_instant]
        exact Nat.le_add_right _ _
      exact Nat.le_trans ih (Nat.le_trans fetched (Nat.le_add_right _ _))

/-- A wait that succeeds returns when its last reply arrives. -/
theorem completed_on_arrival {rounds : Nat} {context : Context} {state : State}
    {timeline : Timeline}
    (completed : (waiter.wait service rounds context operation state timeline).result =
      some (.ok ())) :
    let run := waiter.wait service rounds context operation state timeline
    ∃ number, run.calls.length = number + 1 ∧
      run.timeline.now =
        waiter.arrivalInstant service operation number state timeline.now := by
  obtain ⟨number, _, calls, ended, stopped⟩ := wait_returned completed
  refine ⟨number, ?_, ?_⟩
  · rw [calls, fetches_length]
  · have alone : DecidesAlone (waiter.reply service operation number state) := by
      by_contra goesOn
      obtain ⟨reason, made⟩ := result_of_goes_on goesOn ended
      rw [completed] at made
      cases made
    rw [stopped]
    exact closing_now_of_decides_alone alone

variable {waiter service operation}

theorem polling_eq_some {attempt elapsed : Nat} {reply : Reply Operation} {event : ProgressEvent}
    (reported : polling? operation attempt elapsed reply = some event) :
    event.operation = operation ∧ event.elapsed? = some elapsed := by
  unfold polling? at reported
  split at reported
  · cases reported
    exact ⟨rfl, rfl⟩
  · contradiction

theorem operation_of_reported (listened : waiter.reports = true) {rounds : Nat} {context : Context}
    {state : State} {timeline : Timeline} :
    ∀ event ∈ (waiter.wait service rounds context operation state timeline).events,
      event.operation = operation := by
  intro event member
  rw [waiter.wait_events service operation listened, List.cons_append, List.mem_cons,
    List.mem_append, List.mem_filterMap, Option.mem_toList, Option.map_eq_some_iff] at member
  rcases member with rfl | ⟨number, _, reported⟩ | ⟨outcome, _, rfl⟩
  · rfl
  · exact (polling_eq_some reported).1
  · cases outcome <;> rfl

theorem elapsed_of_polling {attempt elapsed time : Nat} {reply : Reply Operation}
    (told : (polling? operation attempt elapsed reply).bind ProgressEvent.elapsed? = some time) :
    time = elapsed := by
  obtain ⟨event, reported, timed⟩ := Option.bind_eq_some_iff.1 told
  rw [(polling_eq_some reported).2] at timed
  exact (Option.some.inj timed).symm

/-- The times that are reported never go back. -/
theorem elapsed_ascends (listened : waiter.reports = true) (rounds : Nat) (context : Context)
    (state : State) (timeline : Timeline) :
    ((waiter.wait service rounds context operation state timeline).events.filterMap
      ProgressEvent.elapsed?).Pairwise (· ≤ ·) := by
  have later {first second : Nat} (order : first ≤ second) :
      waiter.arrivalInstant service operation first state timeline.now - timeline.now ≤
        waiter.arrivalInstant service operation second state timeline.now - timeline.now :=
    Nat.sub_le_sub_right (arrival_instant_mono waiter service operation order state _) _
  rw [waiter.wait_events service operation listened, List.cons_append, List.filterMap_cons,
    List.filterMap_append, List.filterMap_filterMap]
  dsimp only [ProgressEvent.elapsed?]
  rw [List.pairwise_append]
  refine ⟨?_, ?_, ?_⟩
  · apply List.Pairwise.filterMap _ _ List.pairwise_lt_range
    intro first second order early reportedFirst late reportedSecond
    rw [elapsed_of_polling reportedFirst, elapsed_of_polling reportedSecond]
    exact later (Nat.le_of_lt order)
  · -- At most one event closes a wait.
    cases (waiter.wait service rounds context operation state timeline).result with
    | none => exact List.Pairwise.nil
    | some outcome =>
        cases outcome with
        | error error => exact List.Pairwise.nil
        | ok _ => exact List.pairwise_singleton _ _
  · intro early listed late closing
    obtain ⟨number, within, reported⟩ := List.mem_filterMap.1 listed
    rw [elapsed_of_polling reported]
    cases result : (waiter.wait service rounds context operation state timeline).result with
    | none =>
        rw [result] at closing
        cases closing
    | some outcome =>
        cases outcome with
        | error error =>
            rw [result] at closing
            cases closing
        | ok _ =>
            obtain ⟨last, count, now⟩ := waiter.completed_on_arrival service operation result
            rw [result, now] at closing
            rw [count, List.mem_range] at within
            rw [List.mem_singleton.1 closing]
            exact later (Nat.le_of_lt_succ within)

end

/-- A wait tells what it does, step by step. It announces itself; it logs every fetch under its
number, and reports every one that brings the operation, with that number, the status and the time
since the call, which never goes back; one event and one entry close it and say its result, and for
an operation that failed they list the errors of the last reply in turn. With nobody to listen it
makes the same calls at the same times, with the same log and the same result. -/
theorem wait_reports_every_step (waiter : Waiter) (service : Service State) (rounds : Nat)
    (context : Context) (operation : String) (state : State) (timeline : Timeline) :
    let told := waiter.withProgress
    let run := told.wait service rounds context operation state timeline
    let untold := waiter.silent.wait service rounds context operation state timeline
    let count := run.calls.length
    let reply := fun number => told.reply service operation number state
    let elapsed := fun number =>
      told.arrivalInstant service operation number state timeline.now - timeline.now
    run.calls = told.fetches service operation count state timeline.now ∧
      run.events =
        .started operation ::
          ((List.range count).filterMap fun number =>
            polling? operation (number + 1) (elapsed number) (reply number)) ++
          (run.result.map (closingEvent operation (run.timeline.now - timeline.now))).toList ∧
      (∀ event ∈ run.events, event.operation = operation) ∧
      (run.events.filterMap ProgressEvent.elapsed?).Pairwise (· ≤ ·) ∧
      (∀ failure, run.result = some (.error (.operation failure)) →
        ∃ last front, count = last + 1 ∧ (reply last).result = some (.ok failure.operation) ∧
          failure.message = front ++ ", ".intercalate (failure.operation.errorEntries.map
            fun entry => "(" ++ entry.code ++ ": " ++ entry.message ++ ")")) ∧
      run.logs =
        ((List.range count).flatMap fun number =>
          told.fetchLog operation (number + 1) :: (reply number).log) ++
          (run.result.map (told.closingLog operation)).toList ∧
      untold.events = [] ∧ untold.calls = run.calls ∧ untold.logs = run.logs ∧
      untold.result = run.result ∧ untold.state = run.state ∧ untold.timeline = run.timeline := by
  intro told run untold count reply elapsed
  have listened : told.reports = true := rfl
  have quiet : untold = run.unreported :=
    (told.wait_unreported service operation rounds context state timeline).symm
  refine ⟨(told.wait_trace service operation rounds context state timeline).2,
    told.wait_events service operation listened rounds context state timeline,
    operation_of_reported listened, elapsed_ascends listened rounds context state timeline, ?_,
    told.wait_logs service operation rounds context state timeline, ?_⟩
  · intro failure failed
    obtain ⟨last, _, calls, ended, _⟩ := wait_returned failed
    have length : count = last + 1 := by
      dsimp only [count, run]
      rw [calls, fetches_length]
    rcases failure_cases ended failed with ⟨_, _, made⟩ | ⟨current, brought, _, _, made⟩ |
      ⟨_, _, _, _, _, made⟩
    · cases made
    · cases made
      exact ⟨last, _, length, brought, rfl⟩
    · cases made
  · rw [quiet]
    exact ⟨TraceEntry.events_in_unreported _, TraceEntry.calls_in_unreported _,
      TraceEntry.logs_in_unreported _, rfl, rfl, rfl⟩

def failingReplies : Script :=
  ⟨[], [], [], [],
    [⟨.value (.object [("name", .text "op"), ("status", .text "RUNNING")]), 3, 1⟩,
      ⟨.value (.object [("name", .text "op"), ("status", .text "DONE"),
        ("error", .object [("errors", .array
          [.object [("code", .text "A"), ("message", .text "b")],
            .object [("code", .text "C"), ("message", .text "d")]])])]), 3, 1⟩]⟩

theorem failed_wait_is_reported :
    (hastyWaiter.withProgress.wait Script.service 5 Timeline.start.newContext.1 "op"
        failingReplies Timeline.start.newContext.2).events =
      [.started "op", .polling "op" "RUNNING" 1 3, .polling "op" "DONE" 2 16,
        .failed "op" "operation op DONE. Status:  (0), errors: (A: b), (C: d)"] := by
  obtain ⟨_, events, _⟩ := wait_reports_every_step hastyWaiter Script.service 5
    Timeline.start.newContext.1 "op" failingReplies Timeline.start.newContext.2
  exact events.trans (by decide)

end Waiter

end CertSteward
