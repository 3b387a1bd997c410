import CertSteward.Proofs.Service.Trace
import CertSteward.Proofs.Timeline.Ending
import CertSteward.Service.Script
import CertSteward.Waiter

/-!
# What a wait comes to

The replies that a wait would see and the instants at which it would see them
depend on the service and the interval alone. The first reply that decides the
wait ends it, and nothing but that reply, with the reason that the context
reports then, makes the result.
-/

namespace CertSteward.Waiter

set_option autoImplicit false

variable {State : Type}

def answer (waiter : Waiter) (service : Service State) (operation : String) (state : State) :
    Reply Operation × State :=
  service.call waiter.project (.operation operation) state

def reply (waiter : Waiter) (service : Service State) (operation : String) :
    Nat → State → Reply Operation
  | 0, state => (waiter.answer service operation state).1
  | number + 1, state =>
      waiter.reply service operation number (waiter.answer service operation state).2

/-- When a fetch is made, if the wait goes on until then: each one an interval after the
arrival of the reply before it. -/
def fetchInstant (waiter : Waiter) (service : Service State) (operation : String) :
    Nat → State → Nat → Nat
  | 0, _, started => started
  | number + 1, state, started =>
      let answer := waiter.answer service operation state
      waiter.fetchInstant service operation number answer.2
        (started + answer.1.took + waiter.pause)

def arrivalInstant (waiter : Waiter) (service : Service State) (operation : String)
    (number : Nat) (state : State) (started : Nat) : Nat :=
  waiter.fetchInstant service operation number state started +
    (waiter.reply service operation number state).took

def wakeUp (waiter : Waiter) (service : Service State) (operation : String)
    (number : Nat) (state : State) (started : Nat) : Nat :=
  waiter.arrivalInstant service operation number state started + waiter.pause

def fetches (waiter : Waiter) (service : Service State) (operation : String) (count : Nat)
    (state : State) (started : Nat) : List (String × Rpc × Nat) :=
  (List.range count).map fun number =>
    (waiter.project, .operation operation,
      waiter.fetchInstant service operation number state started)

def arrival (waiter : Waiter) (service : Service State) (operation : String) (number : Nat)
    (state : State) (timeline : Timeline) : Timeline :=
  timeline.passTo (waiter.arrivalInstant service operation number state timeline.now)

/-- Whether a result ends a wait whose context may have ended. -/
def IsDecisive (ended : Prop) : Option (Except ApiError Operation) → Prop
  | none => True
  | some (.error _) => True
  | some (.ok current) => current.status = "DONE" ∨ ended

instance (ended : Prop) [Decidable ended] :
    (result : Option (Except ApiError Operation)) → Decidable (IsDecisive ended result)
  | none => isTrue trivial
  | some (.error _) => isTrue trivial
  | some (.ok current) => inferInstanceAs (Decidable (current.status = "DONE" ∨ ended))

/-- Whether a reply ends the wait: a failure does, an operation that is done does, and so does
any other where the context has ended on its arrival or ends before the next fetch. A deadline
that falls on the instant of the next fetch counts as before it. -/
def Decides (waiter : Waiter) (service : Service State) (context : Context)
    (operation : String) (number : Nat) (state : State) (timeline : Timeline) : Prop :=
  IsDecisive
    ((waiter.arrival service operation number state timeline).EndsBy context
      (waiter.wakeUp service operation number state timeline.now))
    (waiter.reply service operation number state).result

instance (waiter : Waiter) (service : Service State) (context : Context) (operation : String)
    (number : Nat) (state : State) (timeline : Timeline) :
    Decidable (waiter.Decides service context operation number state timeline) :=
  inferInstanceAs (Decidable (IsDecisive _ _))

/-- The result that a reply makes, given the reason that the context reports after it. -/
def verdict (operation : String) (reason : Option EndReason) :
    Except ApiError Operation → Option (Except StewardError Unit)
  | .error error => some (.error (.operationPoll operation error))
  | .ok current =>
      if current.status = "DONE" then
        match current.error with
        | none => some (.ok ())
        | some _ => some (.error (.operation ⟨current⟩))
      else reason.map fun reason => .error (.ended reason)

/-- A run that ended with the result that a reply makes. A reply without a result never came,
and leaves the run without one. -/
def EndsWith (context : Context) (operation : String) (reply : Reply Operation)
    (run : Run State StewardError Unit) : Prop :=
  match reply.result with
  | none => run.result = none
  | some result =>
      run.result.isSome ∧
        run.result = verdict operation (run.timeline.observe context).1 result

theorem ends_with_prepend (context : Context) (operation : String) (reply : Reply Operation)
    (entries : List TraceEntry) (run : Run State StewardError Unit) :
    EndsWith context operation reply (run.prepend entries) ↔
      EndsWith context operation reply run := Iff.rfl

section

variable (waiter : Waiter) (service : Service State) (context : Context) (operation : String)

theorem fetch_instant_ge (number : Nat) (state : State) (started : Nat) :
    started ≤ waiter.fetchInstant service operation number state started := by
  induction number generalizing state started with
  | zero => exact Nat.le_refl _
  | succ number ih =>
      exact Nat.le_trans (Nat.le_trans (Nat.le_add_right _ _) (Nat.le_add_right _ _))
        (ih (waiter.answer service operation state).2
          (started + (waiter.answer service operation state).1.took + waiter.pause))

def afterPause (state : State) (timeline : Timeline) : Timeline :=
  (waiter.arrival service operation 0 state timeline).passTo
    (waiter.wakeUp service operation 0 state timeline.now)

theorem after_pause_eq (state : State) (timeline : Timeline) :
    waiter.afterPause service operation state timeline =
      timeline.passTo (waiter.wakeUp service operation 0 state timeline.now) :=
  Timeline.pass_to_pass_to timeline (Nat.le_add_right _ _)

theorem after_pause_now (state : State) (timeline : Timeline) :
    (waiter.afterPause service operation state timeline).now =
      waiter.wakeUp service operation 0 state timeline.now := by
  rw [after_pause_eq, Timeline.pass_to_now]
  exact Nat.max_eq_right (Nat.le_trans (Nat.le_add_right _ _) (Nat.le_add_right _ _))

/-- A later reply finds the timeline that it finds in a wait begun with the second fetch. -/
theorem arrival_succ (number : Nat) (state : State) (timeline : Timeline) :
    waiter.arrival service operation (number + 1) state timeline =
      waiter.arrival service operation number (waiter.answer service operation state).2
        (waiter.afterPause service operation state timeline) := by
  have notBefore := waiter.fetch_instant_ge service operation number
    (waiter.answer service operation state).2
    (waiter.wakeUp service operation 0 state timeline.now)
  unfold arrival
  rw [after_pause_now, after_pause_eq]
  exact (Timeline.pass_to_pass_to timeline
    (Nat.le_trans notBefore (Nat.le_add_right _ _))).symm

theorem decides_succ_iff (number : Nat) (state : State) (timeline : Timeline) :
    waiter.Decides service context operation (number + 1) state timeline ↔
      waiter.Decides service context operation number
        (waiter.answer service operation state).2
        (waiter.afterPause service operation state timeline) := by
  unfold Decides
  rw [arrival_succ, after_pause_now]
  rfl

theorem fetches_succ (count : Nat) (state : State) (started : Nat) :
    waiter.fetches service operation (count + 1) state started =
      (waiter.project, .operation operation, started) ::
        waiter.fetches service operation count (waiter.answer service operation state).2
          (waiter.wakeUp service operation 0 state started) := by
  simp only [fetches, List.range_succ_eq_map, List.map_cons, List.map_map]
  rfl

@[simp] theorem calls_in_waiter_event (event : ProgressEvent) :
    TraceEntry.callsIn (waiter.event event) = [] := by
  unfold Waiter.event
  split <;> rfl

@[simp] theorem calls_fail (error : StewardError) (state : State) (timeline : Timeline) :
    (waiter.fail operation error state timeline).calls = [] := by
  simp [fail, Run.stop, Run.calls_eq, Run.prepend, failureEntries, logEntry]

@[simp] theorem result_fail (error : StewardError) (state : State) (timeline : Timeline) :
    (waiter.fail operation error state timeline).result = some (.error error) := rfl

@[simp] theorem timeline_fail (error : StewardError) (state : State) (timeline : Timeline) :
    (waiter.fail operation error state timeline).timeline = timeline := rfl

@[simp] theorem calls_succeed (started : Nat) (state : State) (timeline : Timeline) :
    (waiter.succeed operation started state timeline).calls = [] := by
  simp [succeed, Run.stop, Run.calls_eq, Run.prepend, doneEntry, logEntry]

@[simp] theorem result_succeed (started : Nat) (state : State) (timeline : Timeline) :
    (waiter.succeed operation started state timeline).result = some (.ok ()) := rfl

def fetchEntries (attempt : Nat) (state : State) (timeline : Timeline) : List TraceEntry :=
  waiter.fetchEntry operation attempt ::
    (service.perform waiter.project (.operation operation) state timeline).trace

@[simp] theorem calls_in_fetch_entries (attempt : Nat) (state : State) (timeline : Timeline) :
    TraceEntry.callsIn (waiter.fetchEntries service operation attempt state timeline) =
      [(waiter.project, .operation operation, timeline.now)] := by
  simp [fetchEntries, fetchEntry, logEntry]

/-- A round in terms of the reply, its arrival and the next wake-up. -/
theorem poll_succ (started rounds attempt : Nat) (state : State) (timeline : Timeline) :
    waiter.poll service context operation started (rounds + 1) attempt state timeline =
      let next := (waiter.answer service operation state).2
      let arrived := waiter.arrival service operation 0 state timeline
      let before := waiter.fetchEntries service operation attempt state timeline
      match (waiter.reply service operation 0 state).result with
      | none => ⟨before, none, next, arrived⟩
      | some (.error error) =>
          (waiter.fail operation (.operationPoll operation error) next arrived).prepend before
      | some (.ok current) =>
          let before := before ++ waiter.event
            (.polling operation current.status attempt (arrived.now - started))
          if current.isDone then
            match current.error with
            | none => (waiter.succeed operation started next arrived).prepend before
            | some _ => (waiter.fail operation (.operation ⟨current⟩) next arrived).prepend before
          else
            match arrived.awaitEnd context
                (waiter.wakeUp service operation 0 state timeline.now) with
            | (some reason, ended) =>
                (waiter.fail operation (.ended reason) next ended).prepend before
            | (none, resumed) =>
                (waiter.poll service context operation started rounds (attempt + 1) next
                  resumed).prepend before := by
  have due : (timeline.pass
        (service.call waiter.project (.operation operation) state).1.took).now +
      waiter.pause = waiter.wakeUp service operation 0 state timeline.now := by
    rw [Timeline.pass_now]
    rfl
  have fetched : (service.perform waiter.project (.operation operation) state timeline).result =
      (waiter.reply service operation 0 state).result := rfl
  rw [poll]
  -- The two matches are over differently written types, so they agree only case by case.
  cases result : (waiter.reply service operation 0 state).result with
  | none =>
      simp only [fetched, result]
      rfl
  | some outcome =>
      cases outcome with
      | error error =>
          simp only [fetched, result]
          rfl
      | ok current =>
          simp only [fetched, result, Service.perform_timeline, due]
          rfl

/-- A round of a wait that succeeds either brings the operation done and without an error, or is
followed by rounds that succeed. -/
theorem poll_ok {started rounds attempt : Nat} {state : State} {timeline : Timeline}
    (succeeded : (waiter.poll service context operation started (rounds + 1) attempt state
      timeline).result = some (.ok ())) :
    ∃ current, (waiter.reply service operation 0 state).result = some (.ok current) ∧
      (current.status = "DONE" ∧ current.error = none ∧
          (waiter.poll service context operation started (rounds + 1) attempt state
            timeline).state = (waiter.answer service operation state).2 ∨
        ∃ resumed,
          (waiter.poll service context operation started rounds (attempt + 1)
            (waiter.answer service operation state).2 resumed).result = some (.ok ()) ∧
          (waiter.poll service context operation started (rounds + 1) attempt state
              timeline).state =
            (waiter.poll service context operation started rounds (attempt + 1)
              (waiter.answer service operation state).2 resumed).state) := by
  rw [poll_succ] at succeeded ⊢
  cases result : (waiter.reply service operation 0 state).result with
  | none =>
      rw [result] at succeeded
      contradiction
  | some outcome =>
      cases outcome with
      | error error =>
          rw [result] at succeeded
          cases succeeded
      | ok current =>
          refine ⟨current, rfl, ?_⟩
          rw [result] at succeeded
          dsimp only at succeeded ⊢
          cases done : current.isDone with
          | true =>
              rw [if_pos done] at succeeded
              cases detail : current.error with
              | some _ =>
                  rw [detail] at succeeded
                  cases succeeded
              | none =>
                  left
                  refine ⟨beq_iff_eq.1 done, rfl, ?_⟩
                  rw [if_pos rfl]
                  rfl
          | false =>
              right
              rw [if_neg (by rw [done]; exact Bool.false_ne_true)] at succeeded
              rw [if_neg Bool.false_ne_true]
              cases waited : (waiter.arrival service operation 0 state timeline).awaitEnd context
                  (waiter.wakeUp service operation 0 state timeline.now) with
              | mk ended resumed =>
                  rw [waited] at succeeded
                  cases ended with
                  | some reason => cases succeeded
                  | none => exact ⟨resumed, succeeded, rfl⟩

variable {waiter service context operation}

/-- A reply that does not decide the wait is followed by the fetches of a wait begun after the
pause. -/
theorem poll_undecided {state : State} {timeline : Timeline}
    (undecided : ¬ waiter.Decides service context operation 0 state timeline)
    (started rounds attempt : Nat) :
    ∃ entries, TraceEntry.callsIn entries =
        [(waiter.project, .operation operation, timeline.now)] ∧
      waiter.poll service context operation started (rounds + 1) attempt state timeline =
        (waiter.poll service context operation started rounds (attempt + 1)
          (waiter.answer service operation state).2
          (waiter.afterPause service operation state timeline)).prepend entries := by
  unfold Decides at undecided
  rw [poll_succ]
  cases result : (waiter.reply service operation 0 state).result with
  | none => simp [result, IsDecisive] at undecided
  | some outcome =>
      cases outcome with
      | error error => simp [result, IsDecisive] at undecided
      | ok current =>
          simp only [result, IsDecisive, not_or] at undecided
          obtain ⟨notDone, goesOn⟩ := undecided
          have running : current.isDone = false := beq_eq_false_iff_ne.2 notDone
          have slept := Timeline.await_end_of_not_ends goesOn
          simp only [running, Bool.false_eq_true, if_false, slept]
          exact ⟨_, by simp, rfl⟩

/-- A reply that decides the wait makes its result, and no fetch follows it. -/
theorem poll_decided {state : State} {timeline : Timeline}
    (decides : waiter.Decides service context operation 0 state timeline)
    (started rounds attempt : Nat) :
    let run := waiter.poll service context operation started (rounds + 1) attempt state timeline
    run.calls = [(waiter.project, .operation operation, timeline.now)] ∧
      EndsWith context operation (waiter.reply service operation 0 state) run := by
  unfold Decides at decides
  unfold EndsWith
  rw [poll_succ]
  cases result : (waiter.reply service operation 0 state).result with
  | none => simp [Run.calls_eq]
  | some outcome =>
      rw [result] at decides
      cases outcome with
      | error error => simp [verdict]
      | ok current =>
          by_cases done : current.status = "DONE"
          · have finished : current.isDone = true := beq_iff_eq.2 done
            cases detail : current.error <;> simp [finished, verdict, done, detail]
          · have running : current.isDone = false := beq_eq_false_iff_ne.2 done
            have ends := decides.resolve_left done
            obtain ⟨reason, after, ended, reports⟩ := Timeline.await_end_of_ends ends
            simp [running, ended, verdict, done, reports]

/-- The replies behind the first one decide no wait that begins with the second fetch, if none of
them decides the whole. -/
theorem undecided_behind {rounds : Nat} {state : State} {timeline : Timeline}
    (undecided : ∀ number < rounds + 1,
      ¬ waiter.Decides service context operation number state timeline) :
    ∀ number < rounds, ¬ waiter.Decides service context operation number
      (waiter.answer service operation state).2
      (waiter.afterPause service operation state timeline) := by
  intro number earlier decides
  rw [← decides_succ_iff] at decides
  exact undecided (number + 1) (Nat.succ_lt_succ earlier) decides

theorem poll_without_decision {rounds : Nat} {state : State} {timeline : Timeline}
    (undecided : ∀ number < rounds,
      ¬ waiter.Decides service context operation number state timeline)
    (started attempt : Nat) :
    let run := waiter.poll service context operation started rounds attempt state timeline
    run.calls = waiter.fetches service operation rounds state timeline.now ∧
      run.result = none := by
  induction rounds generalizing state timeline attempt with
  | zero => exact ⟨rfl, rfl⟩
  | succ rounds ih =>
      obtain ⟨entries, called, goesOn⟩ := poll_undecided (undecided 0 (Nat.succ_pos _))
        started rounds attempt
      obtain ⟨calls, result⟩ := ih (undecided_behind undecided) (attempt + 1)
      simp only [goesOn, Run.calls_prepend, Run.result_prepend, called, calls, result,
        fetches_succ, after_pause_now, List.singleton_append, and_self]

theorem poll_until_decision {number : Nat} {state : State} {timeline : Timeline}
    (decides : waiter.Decides service context operation number state timeline)
    (undecided : ∀ earlier < number,
      ¬ waiter.Decides service context operation earlier state timeline)
    {rounds : Nat} (observed : number < rounds) (started attempt : Nat) :
    let run := waiter.poll service context operation started rounds attempt state timeline
    run.calls = waiter.fetches service operation (number + 1) state timeline.now ∧
      EndsWith context operation (waiter.reply service operation number state) run := by
  induction number generalizing rounds state timeline attempt with
  | zero =>
      obtain ⟨rounds, rfl⟩ := Nat.exists_eq_add_one_of_ne_zero (Nat.ne_of_gt observed)
      exact poll_decided decides started rounds attempt
  | succ number ih =>
      obtain ⟨rounds, rfl⟩ := Nat.exists_eq_add_one_of_ne_zero
        (Nat.ne_of_gt (Nat.lt_of_le_of_lt (Nat.zero_le _) observed))
      obtain ⟨entries, called, goesOn⟩ := poll_undecided (undecided 0 (Nat.succ_pos _))
        started rounds attempt
      rw [decides_succ_iff] at decides
      obtain ⟨calls, ended⟩ := ih decides (undecided_behind undecided)
        (Nat.lt_of_succ_lt_succ observed) (attempt + 1)
      simp only [goesOn, Run.calls_prepend, called, calls, ends_with_prepend,
        fetches_succ _ _ _ (number + 1), after_pause_now, List.singleton_append, true_and]
      exact ended

theorem calls_wait (rounds : Nat) (state : State) (timeline : Timeline) :
    (waiter.wait service rounds context operation state timeline).calls =
      (waiter.poll service context operation timeline.now rounds 1 state timeline).calls := by
  rw [wait, Run.calls_prepend, calls_in_waiter_event, List.nil_append]

end

/-- A wait ends at the first reply that decides it, whatever would follow, and that reply makes
its result; until then it only fetches the operation that it was given. -/
theorem wait_ends_at_first_deciding_reply (waiter : Waiter) (service : Service State)
    (context : Context) (operation : String) (state : State) (timeline : Timeline) :
    (∀ number, waiter.Decides service context operation number state timeline →
      (∀ earlier < number, ¬ waiter.Decides service context operation earlier state timeline) →
      ∀ rounds, number < rounds →
        let run := waiter.wait service rounds context operation state timeline
        run.calls = waiter.fetches service operation (number + 1) state timeline.now ∧
          EndsWith context operation (waiter.reply service operation number state) run) ∧
      ∀ rounds,
        (∀ number < rounds,
          ¬ waiter.Decides service context operation number state timeline) →
        let run := waiter.wait service rounds context operation state timeline
        run.calls = waiter.fetches service operation rounds state timeline.now ∧
          run.result = none := by
  constructor
  · intro number decides undecided rounds observed
    obtain ⟨calls, ended⟩ := poll_until_decision decides undecided observed timeline.now 1
    simp only [wait, Run.calls_prepend, calls_in_waiter_event, List.nil_append, calls,
      ends_with_prepend, true_and]
    exact ended
  · intro rounds undecided
    obtain ⟨calls, result⟩ := poll_without_decision undecided timeline.now 1
    simp only [wait, Run.calls_prepend, calls_in_waiter_event, List.nil_append, calls,
      Run.result_prepend, result, and_self]

def runningReplies : Script :=
  ⟨[], [], [], [],
    [⟨.value (.object [("name", .text "op"), ("status", .text "RUNNING")]), 3, 5⟩]⟩

def briefContext : Context × Timeline :=
  Timeline.start.newContext.2.withTimeout Timeline.start.newContext.1 25

def hastyWaiter : Waiter :=
  (Waiter.new "p").withInterval 0

/-- The context ends in the second pause, so the second reply is the last. -/
theorem wait_gives_up_in_second_pause :
    hastyWaiter.Decides Script.service briefContext.1 "op" 1 runningReplies briefContext.2 ∧
      (∀ earlier < 1, ¬ hastyWaiter.Decides Script.service briefContext.1 "op" earlier
        runningReplies briefContext.2) ∧
      let run := hastyWaiter.wait Script.service 5 briefContext.1 "op" runningReplies
        briefContext.2
      run.calls = [("p", .operation "op", 0), ("p", .operation "op", 13)] ∧
        run.result = some (.error (.ended .deadlineExceeded)) := by
  refine ⟨by decide, by decide, ?_⟩
  obtain ⟨calls, _, result⟩ := (wait_ends_at_first_deciding_reply hastyWaiter Script.service
    briefContext.1 "op" runningReplies briefContext.2).1 1 (by decide) (by decide) 5 (by decide)
  exact ⟨calls.trans (by decide), result.trans rfl⟩

end CertSteward.Waiter
