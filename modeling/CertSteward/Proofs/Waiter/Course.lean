import CertSteward.Proofs.Context.Records
import CertSteward.Proofs.Waiter.Timing

/-!
# The course of a wait

The trace of a wait is put together from visits to the service, one for every
fetch, and from the entries that close it. What a visit leaves behind depends
on its number, its reply and the instants of both; the context and the
listener decide neither.
-/

namespace CertSteward

set_option autoImplicit false

namespace Timeline

/-- Whoever waits in vain for the end of a context sees time pass and nothing else. -/
theorem eq_pass_to_of_await_end {timeline after : Timeline} {context : Context} {limit : Nat}
    (waited : timeline.awaitEnd context limit = (none, after)) :
    after = timeline.passTo limit := by
  by_cases ends : timeline.EndsBy context limit
  · obtain ⟨reason, ended, found, _⟩ := await_end_of_ends ends
    rw [found] at waited
    cases waited
  · rw [await_end_of_not_ends ends] at waited
    cases waited
    rfl

end Timeline

namespace Waiter

variable {State : Type} (waiter : Waiter) (service : Service State) (operation : String)

def polling? (attempt elapsed : Nat) (reply : Reply Operation) : Option ProgressEvent :=
  match reply.result with
  | some (.ok current) => some (.polling operation current.status attempt elapsed)
  | _ => none

/-- What a fetch leaves in the trace, the fetch of number zero being counted as `attempt`. -/
def visit (started attempt : Nat) (state : State) (now number : Nat) : List TraceEntry :=
  let reply := waiter.reply service operation number state
  let arrived := waiter.arrivalInstant service operation number state now
  waiter.fetchEntry operation (number + attempt) ::
    .call waiter.project (.operation operation)
      (waiter.fetchInstant service operation number state now) ::
    (reply.log.map .log ++
      (polling? operation (number + attempt) (arrived - started) reply).toList.flatMap waiter.event)

def closingEntries (elapsed : Nat) : Option (Except StewardError Unit) → List TraceEntry
  | none => []
  | some (.ok ()) => waiter.doneEntry operation :: waiter.event (.completed operation elapsed)
  | some (.error error) => waiter.failureEntries operation error

theorem visit_succ (started attempt : Nat) (state : State) (now number : Nat) :
    waiter.visit service operation started attempt state now (number + 1) =
      waiter.visit service operation started (attempt + 1)
        (waiter.answer service operation state).2
        (waiter.wakeUp service operation 0 state now) number := by
  have ordinal : number + 1 + attempt = number + (attempt + 1) := by omega
  simp only [visit, ordinal]
  rfl

/-- The first visit is the request, its log and what is reported of the reply. -/
theorem visit_zero (started attempt : Nat) (state : State) (timeline : Timeline) :
    waiter.visit service operation started attempt state timeline.now 0 =
      waiter.fetchEntries service operation attempt state timeline ++
        (polling? operation attempt
          ((waiter.arrival service operation 0 state timeline).now - started)
          (waiter.reply service operation 0 state)).toList.flatMap waiter.event := by
  rw [arrival_now, visit, Nat.zero_add]
  rfl

@[simp] theorem calls_in_visit (started attempt : Nat) (state : State) (now number : Nat) :
    TraceEntry.callsIn (waiter.visit service operation started attempt state now number) =
      [(waiter.project, .operation operation,
        waiter.fetchInstant service operation number state now)] := by
  have silent : TraceEntry.callsIn
      ((polling? operation (number + attempt)
        (waiter.arrivalInstant service operation number state now - started)
        (waiter.reply service operation number state)).toList.flatMap waiter.event) = [] := by
    cases polling? operation _ _ _ <;> simp
  simp [visit, fetchEntry, logEntry, silent]

@[simp] theorem fetches_length (count : Nat) (state : State) (started : Nat) :
    (waiter.fetches service operation count state started).length = count := by
  rw [fetches, List.length_map, List.length_range]

theorem calls_in_visits (started attempt count : Nat) (state : State) (now : Nat) :
    TraceEntry.callsIn ((List.range count).flatMap
        (waiter.visit service operation started attempt state now)) =
      waiter.fetches service operation count state now := by
  induction count with
  | zero => rfl
  | succ count ih =>
      rw [List.range_succ, List.flatMap_append, TraceEntry.calls_in_append, ih, fetches, fetches,
        List.range_succ, List.map_append]
      simp

@[simp] theorem calls_in_closing_entries (elapsed : Nat)
    (result : Option (Except StewardError Unit)) :
    TraceEntry.callsIn (waiter.closingEntries operation elapsed result) = [] := by
  unfold closingEntries
  split <;> simp [doneEntry, failureEntries, logEntry]

/-- The rounds of a wait leave one visit each, and the result its own entries behind them. -/
theorem poll_trace (context : Context) (started rounds attempt : Nat) (state : State)
    (timeline : Timeline) :
    let run := waiter.poll service context operation started rounds attempt state timeline
    ∃ count, run.trace =
      (List.range count).flatMap
          (waiter.visit service operation started attempt state timeline.now) ++
        waiter.closingEntries operation (run.timeline.now - started) run.result := by
  induction rounds generalizing attempt state timeline with
  | zero => exact ⟨0, rfl⟩
  | succ rounds ih =>
      have single : (List.range 1).flatMap
          (waiter.visit service operation started attempt state timeline.now) =
            waiter.visit service operation started attempt state timeline.now 0 :=
        List.append_nil _
      rw [poll_succ]
      cases result : (waiter.reply service operation 0 state).result with
      | none =>
          refine ⟨1, ?_⟩
          rw [single, visit_zero]
          simp [polling?, result, closingEntries]
      | some outcome =>
          cases outcome with
          | error error =>
              refine ⟨1, ?_⟩
              rw [single, visit_zero]
              simp [polling?, result, closingEntries, fail, Run.prepend, Run.stop]
          | ok current =>
              dsimp only
              split
              -- A last word, with or without an error.
              · refine ⟨1, ?_⟩
                rw [single, visit_zero]
                split <;>
                  simp [polling?, result, closingEntries, succeed, fail, Run.prepend, Run.stop]
              · split
                · refine ⟨1, ?_⟩
                  rw [single, visit_zero]
                  simp [polling?, result, closingEntries, fail, Run.prepend, Run.stop]
                · rename_i resumed waited
                  have now :
                      resumed.now = waiter.wakeUp service operation 0 state timeline.now := by
                    rw [Timeline.eq_pass_to_of_await_end waited]
                    exact waiter.after_pause_now service operation state timeline
                  obtain ⟨count, trace⟩ := ih (attempt + 1)
                    (waiter.answer service operation state).2 resumed
                  refine ⟨count + 1, ?_⟩
                  rw [List.range_succ_eq_map, List.flatMap_cons, List.flatMap_map]
                  simp only [visit_succ, ← now]
                  rw [Run.prepend, trace, visit_zero]
                  simp [polling?, result]

/-- A wait announces itself, visits the service as often as it makes a call, and closes with its
result. -/
theorem wait_trace (rounds : Nat) (context : Context) (state : State) (timeline : Timeline) :
    let run := waiter.wait service rounds context operation state timeline
    run.trace =
        waiter.event (.started operation) ++
          ((List.range run.calls.length).flatMap
              (waiter.visit service operation timeline.now 1 state timeline.now) ++
            waiter.closingEntries operation (run.timeline.now - timeline.now) run.result) ∧
      run.calls = waiter.fetches service operation run.calls.length state timeline.now := by
  intro run
  obtain ⟨count, trace⟩ :=
    waiter.poll_trace service operation context timeline.now rounds 1 state timeline
  have whole : run.trace = waiter.event (.started operation) ++ _ :=
    congrArg (waiter.event (.started operation) ++ ·) trace
  have calls : run.calls = waiter.fetches service operation count state timeline.now := by
    rw [Run.calls_eq, whole]
    simp [calls_in_visits]
  have length : run.calls.length = count := by
    rw [calls, fetches_length]
  rw [length]
  exact ⟨whole, calls⟩

variable {waiter service operation} {context : Context} {state : State} {timeline : Timeline}

theorem calls_until_decision {number rounds : Nat}
    (decides : waiter.Decides service context operation number state timeline)
    (undecided : ∀ earlier < number,
      ¬ waiter.Decides service context operation earlier state timeline)
    (observed : number < rounds) :
    (waiter.wait service rounds context operation state timeline).calls =
      waiter.fetches service operation (number + 1) state timeline.now := by
  rw [calls_wait]
  exact (poll_until_decision decides undecided observed timeline.now 1).1

theorem wait_without_decision {rounds : Nat}
    (undecided : ∀ number < rounds,
      ¬ waiter.Decides service context operation number state timeline) :
    let run := waiter.wait service rounds context operation state timeline
    run.calls = waiter.fetches service operation rounds state timeline.now ∧
      run.result = none := by
  intro run
  rw [calls_wait]
  exact poll_without_decision undecided timeline.now 1

/-- A wait that returns does so on the first reply that decides, which is the last it asked for. -/
theorem wait_returned {rounds : Nat} {outcome : Except StewardError Unit}
    (returned : (waiter.wait service rounds context operation state timeline).result =
      some outcome) :
    let run := waiter.wait service rounds context operation state timeline
    ∃ number, waiter.Decides service context operation number state timeline ∧
      run.calls = waiter.fetches service operation (number + 1) state timeline.now ∧
      EndsWith context operation (waiter.reply service operation number state) run ∧
      run.timeline = waiter.closing service operation context number state timeline := by
  rcases first_decision waiter service operation context timeline state rounds with
    ⟨number, observed, decides, undecided⟩ | undecided
  · have calls := calls_until_decision decides undecided observed
    have ended := wait_until_decision waiter service operation context timeline state decides
      undecided observed
    exact ⟨number, decides, calls, ended⟩
  · have unended := (wait_without_decision undecided).2
    rw [returned] at unended
    contradiction

/-- How a wait can fail: on a fetch, on the operation, or with its context. -/
theorem failure_cases {reply : Reply Operation} {run : Run State StewardError Unit}
    {error : StewardError} (ended : EndsWith context operation reply run)
    (failed : run.result = some (.error error)) :
    (∃ cause, reply.result = some (.error cause) ∧ error = .operationPoll operation cause) ∨
      (∃ current, reply.result = some (.ok current) ∧ current.status = "DONE" ∧
        current.error.isSome ∧ error = .operation ⟨current⟩) ∨
      ∃ current reason, reply.result = some (.ok current) ∧ current.status ≠ "DONE" ∧
        (run.timeline.observe context).1 = some reason ∧ error = .ended reason := by
  unfold EndsWith at ended
  rw [failed] at ended
  cases result : reply.result with
  | none =>
      rw [result] at ended
      contradiction
  | some outcome =>
      rw [result] at ended
      have made := ended.2
      cases outcome with
      | error cause =>
          left
          cases made
          exact ⟨cause, rfl, rfl⟩
      | ok current =>
          right
          unfold verdict at made
          dsimp only at made
          split at made
          · rename_i done
            left
            cases detail : current.error with
            | none =>
                rw [detail] at made
                cases made
            | some _ =>
                rw [detail] at made
                cases made
                exact ⟨current, rfl, done, by rw [detail]; rfl, rfl⟩
          · rename_i running
            right
            cases report : (run.timeline.observe context).1 with
            | none =>
                rw [report] at made
                contradiction
            | some reason =>
                rw [report] at made
                cases made
                exact ⟨current, reason, rfl, running, rfl, rfl⟩

/-- Where a failing wait stopped. A wait given up has its reason in the record of its context. -/
theorem wait_failed {rounds : Nat} {error : StewardError}
    (failed : (waiter.wait service rounds context operation state timeline).result =
      some (.error error)) :
    let run := waiter.wait service rounds context operation state timeline
    ∃ number, run.calls.length = number + 1 ∧
      ((∃ cause, (waiter.reply service operation number state).result = some (.error cause) ∧
          error = .operationPoll operation cause) ∨
        (∃ current, (waiter.reply service operation number state).result = some (.ok current) ∧
          current.status = "DONE" ∧ current.error.isSome ∧ error = .operation ⟨current⟩) ∨
        ∃ current reason,
          (waiter.reply service operation number state).result = some (.ok current) ∧
          current.status ≠ "DONE" ∧
          (waiter.arrival service operation number state timeline).EndsBy context
            (waiter.wakeUp service operation number state timeline.now) ∧
          run.timeline.recorded? context.record = some reason ∧ error = .ended reason) := by
  intro run
  obtain ⟨number, decides, calls, ended, stopped⟩ := wait_returned failed
  refine ⟨number, by rw [calls, fetches_length], ?_⟩
  rcases failure_cases ended failed with onFetch | onOperation |
    ⟨current, reason, fetched, running, reports, rfl⟩
  · exact Or.inl onFetch
  · exact Or.inr (Or.inl onOperation)
  · right
    right
    have undecided : ¬ DecidesAlone (waiter.reply service operation number state) := by
      rw [DecidesAlone, fetched]
      simpa [IsDecisive] using running
    have ends := ((decides_iff _ _ _ _ _ _ _).1 decides).resolve_left undecided
    refine ⟨current, reason, fetched, running, ends, ?_, rfl⟩
    obtain ⟨first, after, waited, _⟩ := Timeline.await_end_of_ends ends
    have recorded := Timeline.recorded_of_await_end _ context
      (show (Timeline.awaitEnd _ context _).1 = some first by rw [waited])
    rw [waited] at recorded
    have there : run.timeline = after := by
      rw [stopped, closing, if_neg undecided, waited]
    rw [there, Timeline.observe_of_recorded recorded] at reports
    rw [there, recorded]
    exact reports

end Waiter

end CertSteward
