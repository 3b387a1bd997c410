import CertSteward.Proofs.Context.Records
import CertSteward.Proofs.Manager.Changes
import CertSteward.Proofs.Waiter.Course

/-!
# What the error of a change says

A change fails where its request is turned away, on a fetch of its operation,
with the operation itself or with its context. What an error can be asked tells
these apart: a missing resource is one of the request alone, and only an
operation that is done speaks of a quota.
-/

namespace CertSteward

set_option autoImplicit false

theorem Operation.error_of_entry {current : Operation} {entry : OperationErrorEntry}
    (member : entry ∈ current.errorEntries) : current.error.isSome := by
  unfold errorEntries at member
  split at member
  · rename_i detail
    rw [detail]
    rfl
  · contradiction

namespace StewardError

variable {error : StewardError}

theorem is_not_found_iff :
    error.isNotFound = true ↔ ∃ message, error = .api (.http 404 message) := by
  cases error with
  | api cause => cases cause <;> simp [isNotFound, ApiError.isNotFound]
  | _ => simp [isNotFound]

theorem is_quota_exceeded_iff :
    error.isQuotaExceeded = true ↔
      ∃ current : Operation, error = .operation ⟨current⟩ ∧
        ∃ entry ∈ current.errorEntries, entry.code = "QUOTA_EXCEEDED" := by
  cases error with
  | operation report =>
      obtain ⟨current⟩ := report
      simp [isQuotaExceeded, OperationError.isQuotaExceeded, OperationError.codeQuotaExceeded]
  | _ => simp [isQuotaExceeded]

theorem is_cancelled_iff : error.isCancelled = true ↔ ∃ reason, error = .ended reason := by
  cases error <;> simp [isCancelled]

theorem is_timeout_iff :
    error.isTimeout = true ↔
      error = .ended .deadlineExceeded ∨ error = .api (.request .timedOut) ∨
        ∃ operation, error = .operationPoll operation (.request .timedOut) := by
  cases error with
  | api cause => cases cause <;> simp [isTimeout, ApiError.isTimeout]
  | operationPoll operation cause => cases cause <;> simp [isTimeout, ApiError.isTimeout]
  | _ => simp [isTimeout]

theorem operation_eq_some_iff {current : Operation} :
    error.operation? = some current ↔ error = .operation ⟨current⟩ := by
  cases error with
  | operation report =>
      obtain ⟨reported⟩ := report
      simp [operation?]
  | _ => simp [operation?]

end StewardError

namespace Manager

variable {State : Type}

section

variable (manager : Manager) (service : Service State) (state : State) (change : Change)
  (run : Run State StewardError Unit)

/-- What the last fetch of a run brought, if it made any. The call before the first fetch asks
for the change. -/
def lastFetch? : Option (Except ApiError Operation) :=
  let answer := change.answer service manager.project state
  match answer.1.result, run.calls.length with
  | some (.ok operation), number + 2 =>
      (manager.waiter.reply service operation.name number answer.2).result
  | _, _ => none

def EndsInPause (context : Context) (timeline : Timeline) : Prop :=
  let answer := change.answer service manager.project state
  let granted := timeline.pass answer.1.took
  match answer.1.result, run.calls.length with
  | some (.ok operation), number + 2 =>
      (manager.waiter.arrival service operation.name number answer.2 granted).EndsBy context
        (manager.waiter.wakeUp service operation.name number answer.2 granted.now)
  | _, _ => False

/-- Whether a run was given up by its context between two fetches of a running operation. -/
def GivenUp (context : Context) (timeline : Timeline) : Prop :=
  (∃ current, manager.lastFetch? service state change run = some (.ok current) ∧
      current.status ≠ "DONE") ∧
    manager.EndsInPause service state change run context timeline

inductive Failure (context : Context) (timeline : Timeline) : StewardError → Prop where
  | refused {cause : ApiError}
      (answered : (change.answer service manager.project state).1.result =
        some (.error cause)) :
      Failure context timeline (.api cause)
  | unheard {operation : String} {cause : ApiError}
      (fetched : manager.lastFetch? service state change run = some (.error cause)) :
      Failure context timeline (.operationPoll operation cause)
  | failed {current : Operation}
      (fetched : manager.lastFetch? service state change run = some (.ok current))
      (done : current.status = "DONE") (detail : current.error.isSome) :
      Failure context timeline (.operation ⟨current⟩)
  | givenUp {reason : EndReason}
      (ended : manager.GivenUp service state change run context timeline)
      (recorded : run.timeline.recorded? context.record = some reason) :
      Failure context timeline (.ended reason)

end

section

variable {manager : Manager} {service : Service State} {state : State} {change : Change}
  {run : Run State StewardError Unit} {context : Context} {timeline : Timeline}

theorem last_fetch_of_granted {operation : Operation} {number : Nat}
    (granted : (change.answer service manager.project state).1.result = some (.ok operation))
    (length : run.calls.length = number + 2) :
    manager.lastFetch? service state change run =
      (manager.waiter.reply service operation.name number
        (change.answer service manager.project state).2).result := by
  simp only [lastFetch?, granted, length]

/-- A change that is turned away is not followed by a fetch. -/
theorem last_fetch_of_refused {cause : ApiError}
    (refused : (change.answer service manager.project state).1.result = some (.error cause)) :
    manager.lastFetch? service state change run = none := by
  simp only [lastFetch?, refused]

/-- A failed run has failed in one of the ways there are. -/
theorem failure_of_error {rounds : Nat} {error : StewardError}
    (failed : (manager.carryOut service rounds context state timeline change).result =
      some (.error error)) :
    manager.Failure service state change
      (manager.carryOut service rounds context state timeline change) context timeline error := by
  cases answered : (change.answer service manager.project state).1.result with
  | none =>
      rw [carry_out_unanswered rounds context timeline answered] at failed
      contradiction
  | some outcome =>
      cases outcome with
      | error cause =>
          rw [carry_out_refused rounds context timeline answered] at failed
          cases failed
          exact .refused answered
      | ok operation =>
          rw [carry_out_granted rounds context timeline answered] at failed ⊢
          obtain ⟨number, length, cases⟩ := Waiter.wait_failed failed
          have calls : ((manager.waitAfter service rounds context state timeline change
              operation).prepend (change.entries service manager.project state
                timeline)).calls.length = number + 2 := by
            rw [Run.calls_prepend, Change.calls_in_entries, List.length_append, waitAfter, length]
            exact Nat.add_comm 1 (number + 1)
          have last := last_fetch_of_granted answered calls
          rcases cases with ⟨cause, fetched, rfl⟩ | ⟨current, fetched, done, detail, rfl⟩ |
            ⟨current, reason, fetched, running, ends, recorded, rfl⟩
          · exact .unheard (last.trans fetched)
          · exact .failed (last.trans fetched) done detail
          · refine .givenUp ⟨⟨current, last.trans fetched, running⟩, ?_⟩ recorded
            simp only [EndsInPause, answered, calls]
            exact ends

namespace Failure

variable {error : StewardError}
  (failure : manager.Failure service state change run context timeline error)
include failure

theorem is_api_iff {cause : ApiError} :
    error = .api cause ↔
      (change.answer service manager.project state).1.result = some (.error cause) := by
  have fetchless (fetched : manager.lastFetch? service state change run ≠ none) :
      (change.answer service manager.project state).1.result ≠ some (.error cause) :=
    fun refused => fetched (last_fetch_of_refused refused)
  cases failure with
  | refused answered => simp [answered]
  | unheard fetched => simp [fetchless, fetched]
  | failed fetched => simp [fetchless, fetched]
  | givenUp ended =>
      obtain ⟨⟨current, fetched, _⟩, _⟩ := ended
      simp [fetchless, fetched]

theorem is_operation_poll_iff {cause : ApiError} :
    (∃ operation, error = .operationPoll operation cause) ↔
      manager.lastFetch? service state change run = some (.error cause) := by
  cases failure with
  | refused answered => simp [last_fetch_of_refused answered]
  | unheard fetched => simp [fetched]
  | failed fetched => simp [fetched]
  | givenUp ended =>
      obtain ⟨⟨current, fetched, _⟩, _⟩ := ended
      simp [fetched]

theorem is_operation_iff {current : Operation} :
    error = .operation ⟨current⟩ ↔
      manager.lastFetch? service state change run = some (.ok current) ∧
        current.status = "DONE" ∧ current.error.isSome := by
  cases failure with
  | refused answered => simp [last_fetch_of_refused answered]
  | unheard fetched => simp [fetched]
  | @failed reported fetched done detail =>
      simp only [fetched, StewardError.operation.injEq, OperationError.mk.injEq,
        Option.some.injEq, Except.ok.injEq]
      constructor
      · rintro rfl
        exact ⟨rfl, done, detail⟩
      · exact And.left
  | givenUp ended =>
      obtain ⟨⟨last, fetched, running⟩, _⟩ := ended
      simp only [fetched, reduceCtorEq, Option.some.injEq, Except.ok.injEq, false_iff]
      rintro ⟨rfl, done, _⟩
      exact running done

theorem is_ended_iff :
    (∃ reason, error = .ended reason) ↔
      manager.GivenUp service state change run context timeline := by
  cases failure with
  | refused answered => simp [GivenUp, last_fetch_of_refused answered]
  | unheard fetched => simp [GivenUp, fetched]
  | failed fetched done => simp [GivenUp, fetched, done]
  | givenUp ended => simp [ended]

theorem recorded_of_ended {reason : EndReason} (ended : error = .ended reason) :
    run.timeline.recorded? context.record = some reason := by
  cases failure with
  | givenUp _ recorded =>
      cases ended
      exact recorded
  | _ => contradiction

theorem is_deadline_iff :
    error = .ended .deadlineExceeded ↔
      manager.GivenUp service state change run context timeline ∧
        (run.timeline.observe context).1 = some .deadlineExceeded := by
  constructor
  · intro ended
    have recorded := failure.recorded_of_ended ended
    exact ⟨failure.is_ended_iff.1 ⟨_, ended⟩, by rw [Timeline.observe_of_recorded recorded]⟩
  · rintro ⟨givenUp, reports⟩
    obtain ⟨reason, ended⟩ := failure.is_ended_iff.2 givenUp
    rw [Timeline.observe_of_recorded (failure.recorded_of_ended ended)] at reports
    rw [ended, Option.some.inj reports]

end Failure

/-- What the error of a failed change says of the run. A missing resource is reported exactly if
the request for the change was answered so, a quota exactly if the operation came to be done with
an entry for it, and a given-up wait exactly if the context ended in a pause, whose reason it goes
on to report. An error is a timeout exactly if the reason is the deadline or the request that
failed timed out, and it carries an operation exactly if that was the last reply, done with an
error. -/
theorem error_tells_how_change_failed (manager : Manager) (service : Service State) (rounds : Nat)
    (context : Context) (state : State) (timeline : Timeline) (change : Change)
    {error : StewardError}
    (failed : (manager.carryOut service rounds context state timeline change).result =
      some (.error error)) :
    let run := manager.carryOut service rounds context state timeline change
    let answered := (change.answer service manager.project state).1.result
    let fetched := manager.lastFetch? service state change run
    let givenUp := manager.GivenUp service state change run context timeline
    (error.isNotFound = true ↔ ∃ message, answered = some (.error (.http 404 message))) ∧
      (∀ cause, fetched = some (.error cause) → error.isNotFound = false) ∧
      (error.isQuotaExceeded = true ↔
        ∃ current, fetched = some (.ok current) ∧ current.status = "DONE" ∧
          ∃ entry ∈ current.errorEntries, entry.code = "QUOTA_EXCEEDED") ∧
      (error.isCancelled = true ↔ givenUp) ∧
      (error.isCancelled = true → ∃ reason, error = .ended reason ∧
        (run.timeline.observe context).1 = some reason ∧
        ∀ later, run.timeline.Keeps later → (later.observe context).1 = some reason) ∧
      (error.isTimeout = true ↔
        givenUp ∧ (run.timeline.observe context).1 = some .deadlineExceeded ∨
          answered = some (.error (.request .timedOut)) ∨
          fetched = some (.error (.request .timedOut))) ∧
      (∀ current, error.operation? = some current ↔
        fetched = some (.ok current) ∧ current.status = "DONE" ∧ current.error.isSome) ∧
      ¬ (error.isNotFound = true ∧ error.isQuotaExceeded = true) ∧
      ¬ (error.isNotFound = true ∧ error.isCancelled = true) ∧
      ¬ (error.isQuotaExceeded = true ∧ error.isCancelled = true) := by
  intro run answered fetched givenUp
  have failure := failure_of_error failed
  refine ⟨?_, ?_, ?_, ?_, ?_, ?_, ?_, ?_⟩
  · simp only [StewardError.is_not_found_iff, failure.is_api_iff]
    rfl
  · intro cause unheard
    obtain ⟨operation, rfl⟩ := failure.is_operation_poll_iff.2 unheard
    rfl
  · rw [StewardError.is_quota_exceeded_iff]
    simp only [failure.is_operation_iff]
    constructor
    · rintro ⟨current, ⟨last, done, _⟩, entry⟩
      exact ⟨current, last, done, entry⟩
    · rintro ⟨current, last, done, entry, member, code⟩
      exact ⟨current, ⟨last, done, Operation.error_of_entry member⟩, entry, member, code⟩
  · rw [StewardError.is_cancelled_iff, failure.is_ended_iff]
  · rw [StewardError.is_cancelled_iff]
    rintro ⟨reason, ended⟩
    have reported : ∀ later, run.timeline.Keeps later →
        (later.observe context).1 = some reason := by
      intro later keeps
      rw [Timeline.observe_of_recorded (keeps _ _ (failure.recorded_of_ended ended))]
    exact ⟨reason, ended, reported _ (Timeline.Keeps.refl _), reported⟩
  · rw [StewardError.is_timeout_iff, failure.is_deadline_iff, failure.is_api_iff,
      failure.is_operation_poll_iff]
  · intro current
    rw [StewardError.operation_eq_some_iff, failure.is_operation_iff]
  · cases error <;>
      simp [StewardError.isNotFound, StewardError.isQuotaExceeded, StewardError.isCancelled]

end

def overdrawnReplies : Script :=
  ⟨[], [⟨.value (.object [("name", .text "op"), ("status", .text "PENDING")]), 4, 1⟩], [], [],
    [⟨.value (.object [("name", .text "op"), ("status", .text "RUNNING")]), 3, 1⟩,
      ⟨.value (.object [("name", .text "op"), ("status", .text "DONE"),
        ("error", .object [("errors", .array
          [.object [("code", .text "A"), ("message", .text "b")],
            .object [("code", .text "QUOTA_EXCEEDED"), ("message", .text "d")]])])]), 3, 1⟩]⟩

def overdrawnOperation : Operation :=
  { Operation.blank with
    name := "op"
    status := "DONE"
    error := some ⟨[⟨"A", "b", none⟩, ⟨"QUOTA_EXCEEDED", "d", none⟩]⟩ }

/-- An entry at any place counts. -/
theorem second_entry_exceeds_quota :
    ∃ error, ((Manager.new "p").carryOut Script.service 5 Timeline.start.newContext.1
        overdrawnReplies Timeline.start.newContext.2 (.delete "c")).result = some (.error error) ∧
      error.isQuotaExceeded = true ∧ error.operation? = some overdrawnOperation := by
  have failed : ((Manager.new "p").carryOut Script.service 5 Timeline.start.newContext.1
      overdrawnReplies Timeline.start.newContext.2 (.delete "c")).result =
        some (.error (.operation ⟨overdrawnOperation⟩)) := rfl
  obtain ⟨_, _, quota, _, _, _, carried, _⟩ := error_tells_how_change_failed (Manager.new "p")
    Script.service 5 Timeline.start.newContext.1 overdrawnReplies Timeline.start.newContext.2
    (.delete "c") failed
  refine ⟨_, failed, ?_, ?_⟩
  · exact quota.2 ⟨overdrawnOperation, rfl, rfl, ⟨"QUOTA_EXCEEDED", "d", none⟩, by decide, rfl⟩
  · exact (carried overdrawnOperation).2 ⟨rfl, rfl, rfl⟩

end Manager

end CertSteward
