import CertSteward.Context.Session
import CertSteward.Proofs.Timeline.Ending

/-!
# Records are written once

No operation on a timeline changes a record that has been written. A context
whose record holds a reason therefore reports that reason from then on, by
every kind of look, and so does every other context of the record.
-/

namespace CertSteward

set_option autoImplicit false

namespace Timeline

def Keeps (earlier later : Timeline) : Prop :=
  ∀ record reason, earlier.recorded? record = some reason →
    later.recorded? record = some reason

theorem Keeps.refl (timeline : Timeline) : timeline.Keeps timeline :=
  fun _ _ recorded => recorded

theorem Keeps.trans {first second third : Timeline} (early : first.Keeps second)
    (late : second.Keeps third) : first.Keeps third :=
  fun record reason recorded => late record reason (early record reason recorded)

theorem keeps_of_records {earlier later : Timeline} (same : later.records = earlier.records) :
    earlier.Keeps later := by
  intro record reason recorded
  rw [recorded?, same]
  exact recorded

variable (timeline : Timeline) (context : Context)

theorem keeps_write_record (record : Nat) (reason : EndReason) :
    timeline.Keeps (timeline.writeRecord record reason) := by
  intro other first recorded
  rw [recorded_write_record]
  by_cases same : other = record
  · rw [← same, recorded]
    simp
  · rw [if_neg same]
    exact recorded

theorem keeps_observe : timeline.Keeps (timeline.observe context).2 := by
  rw [observe_snd]
  split
  · exact timeline.keeps_write_record _ _
  · exact Keeps.refl timeline

theorem keeps_cancel : timeline.Keeps (timeline.cancel context) := by
  rw [cancel_eq_observe]
  have tokens : timeline.Keeps (timeline.cancelToken context.token) := keeps_of_records rfl
  exact tokens.trans (keeps_observe _ context)

theorem keeps_fire (target : AlarmTarget) : timeline.Keeps (timeline.fire target) := by
  cases target with
  | context context => exact timeline.keeps_cancel context
  | token token => exact keeps_of_records rfl

theorem keeps_alarm (alarm : Alarm) :
    timeline.Keeps ((timeline.moveTo alarm.due).fire alarm.target) := by
  have moved : timeline.Keeps (timeline.moveTo alarm.due) := keeps_of_records rfl
  exact moved.trans (keeps_fire _ alarm.target)

theorem keeps_pass_alarms (instant : Nat) (alarms : List Alarm) :
    timeline.Keeps (passAlarms instant alarms timeline) := by
  induction alarms generalizing timeline with
  | nil => exact keeps_of_records rfl
  | cons alarm rest ih =>
      unfold passAlarms
      split
      · exact (timeline.keeps_alarm alarm).trans (ih _)
      · exact keeps_of_records rfl

theorem keeps_pass_until_cancelled (token : Token) (instant : Nat) (alarms : List Alarm) :
    timeline.Keeps (passUntilCancelled token instant alarms timeline) := by
  induction alarms generalizing timeline with
  | nil => exact keeps_of_records rfl
  | cons alarm rest ih =>
      have fired := timeline.keeps_alarm alarm
      simp only [passUntilCancelled]
      split
      · split
        · exact fired.trans (keeps_of_records rfl)
        · exact fired.trans (ih _)
      · exact keeps_of_records rfl

theorem keeps_await_end (limit : Nat) :
    timeline.Keeps (timeline.awaitEnd context limit).2 := by
  cases look : (timeline.observe context).1 with
  | some reason =>
      rw [await_end_of_ended look]
      exact timeline.keeps_observe context
  | none =>
      have stopped := timeline.keeps_pass_until_cancelled context.token
        (lookout context limit) timeline.alarms
      rw [await_end_of_live look]
      dsimp only
      split
      · exact stopped.trans (keeps_observe _ context)
      · exact stopped

theorem keeps_with_deadline (deadline : Nat) :
    timeline.Keeps (timeline.withDeadline context deadline).2 := by
  have numbered : timeline.Keeps { timeline with fresh := timeline.fresh + 1 } :=
    keeps_of_records rfl
  unfold withDeadline
  dsimp only
  split
  · exact numbered.trans (keeps_write_record _ _ _)
  · exact numbered

/-- Who waits for the end sees it recorded when the wait gives a reason. -/
theorem recorded_of_await_end {reason : EndReason} {limit : Nat}
    (ended : (timeline.awaitEnd context limit).1 = some reason) :
    (timeline.awaitEnd context limit).2.recorded? context.record = some reason := by
  cases look : (timeline.observe context).1 with
  | some first =>
      rw [await_end_of_ended look] at ended ⊢
      obtain rfl := Option.some.inj ended
      exact recorded_of_observe look
  | none =>
      rw [await_end_of_live look] at ended ⊢
      dsimp only at ended ⊢
      split at ended
      · rename_i fired
        rw [if_pos fired]
        exact recorded_of_observe ended
      · contradiction

/-- A context that has not ended takes its cancellation for its reason. -/
theorem recorded_of_cancel (live : (timeline.observe context).1 = none) :
    (timeline.cancel context).recorded? context.record = some .cancelled := by
  rw [cancel_eq_observe]
  apply recorded_of_observe
  rw [observe_cancel_token, live]
  rfl

end Timeline

namespace Context.Session

open Timeline (Keeps)

variable (session : Session)

theorem keeps_with_context (name : String) {act : Context → Answer × Session}
    (each : ∀ context, session.timeline.Keeps (act context).2.timeline) :
    session.timeline.Keeps (session.withContext name act).2.timeline := by
  unfold withContext
  split
  · exact each _
  · exact Keeps.refl _

theorem keeps_with_token (name : String) {act : Token → Answer × Session}
    (each : ∀ token, session.timeline.Keeps (act token).2.timeline) :
    session.timeline.Keeps (session.withToken name act).2.timeline := by
  unfold withToken
  split
  · exact each _
  · exact Keeps.refl _

theorem keeps_step (step : Step) : session.timeline.Keeps (session.step step).2.timeline := by
  have unchanged {later : Timeline} (same : later.records = session.timeline.records) :
      session.timeline.Keeps later := Timeline.keeps_of_records same
  cases step with
  | newContext name => exact unchanged rfl
  | newToken name => exact unchanged rfl
  | advance milliseconds => exact Timeline.keeps_pass_alarms _ _ _
  | childToken name parent => exact session.keeps_with_token _ fun _ => unchanged rfl
  | fromToken name token => exact session.keeps_with_token _ fun _ => unchanged rfl
  | cancelToken token => exact session.keeps_with_token _ fun _ => unchanged rfl
  | isTokenCancelled token => exact session.keeps_with_token _ fun _ => unchanged rfl
  | tokenOf name context => exact session.keeps_with_context _ fun _ => unchanged rfl
  | clone name context => exact session.keeps_with_context _ fun _ => unchanged rfl
  | deadline context => exact session.keeps_with_context _ fun _ => unchanged rfl
  | cancelLater context delay => exact session.keeps_with_context _ fun _ => unchanged rfl
  | withTimeout name context timeout =>
      exact session.keeps_with_context _ fun context => Timeline.keeps_with_deadline _ context _
  | withDeadline name context deadline =>
      exact session.keeps_with_context _ fun context => Timeline.keeps_with_deadline _ context _
  | cancel context =>
      exact session.keeps_with_context _ fun context => Timeline.keeps_cancel _ context
  | isCancelled context =>
      exact session.keeps_with_context _ fun context => Timeline.keeps_observe _ context
  | error context =>
      exact session.keeps_with_context _ fun context => Timeline.keeps_observe _ context
  | done context limit =>
      exact session.keeps_with_context _ fun context => Timeline.keeps_await_end _ context _

theorem keeps_run (steps : List Step) :
    session.timeline.Keeps (session.run steps).2.timeline := by
  induction steps generalizing session with
  | nil => exact Keeps.refl _
  | cons step rest ih => exact (session.keeps_step step).trans (ih _)

section

variable {session} {name : String} {context : Context}
  (named : session.contexts.get? name = some context)
include named

theorem step_error : session.step (.error name) =
    (.reason (session.timeline.observe context).1, (session.observe context).2) := by
  simp only [step, withContext, named]
  rfl

theorem step_is_cancelled : session.step (.isCancelled name) =
    (.flag (session.timeline.observe context).1.isSome, (session.observe context).2) := by
  simp only [step, withContext, named]
  rfl

theorem step_cancel : session.step (.cancel name) =
    (.silent, { session with timeline := session.timeline.cancel context }) := by
  simp only [step, withContext, named]

theorem step_done (limit : Nat) :
    let waited := session.timeline.awaitEnd context (session.timeline.now + limit)
    session.step (.done name limit) =
      (.ended waited.1 (waited.2.now - session.timeline.now),
        { session with timeline := waited.2 }) := by
  simp only [step, withContext, named]

end

/-- Whether every context of a record reports one reason from now on, whatever is done, by each
of the three ways to look at it. -/
def Settled (session : Session) (record : Nat) (reason : EndReason) : Prop :=
  ∀ (steps : List Step) (name : String) (context : Context),
    (session.run steps).2.contexts.get? name = some context → context.record = record →
    ((session.run steps).2.step (.error name)).1 = .reason (some reason) ∧
      ((session.run steps).2.step (.isCancelled name)).1 = .flag true ∧
      ∀ limit, ((session.run steps).2.step (.done name limit)).1 = .ended (some reason) 0

theorem settled_of_recorded {record : Nat} {reason : EndReason}
    (recorded : session.timeline.recorded? record = some reason) :
    session.Settled record reason := by
  intro steps name context named shared
  have later : (session.run steps).2.timeline.recorded? context.record = some reason := by
    rw [shared]
    exact session.keeps_run steps record reason recorded
  have seen := Timeline.observe_of_recorded later
  refine ⟨?_, ?_, ?_⟩
  · rw [step_error named, seen]
  · rw [step_is_cancelled named, seen]
    rfl
  · intro limit
    simp only [step_done named, Timeline.await_end_of_ended seen, Timeline.observe_now,
      Nat.sub_self]

end Context.Session

end CertSteward
