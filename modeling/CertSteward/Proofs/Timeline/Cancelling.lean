import CertSteward.Proofs.Context.Records

/-!
# Timelines with one more cancellation

A cancellation can only end contexts. Whatever has ended on a timeline has also
ended, at the same instant, on the timeline with a cancellation more, be it one
that happens at once or one that is still to come.
-/

namespace CertSteward.Timeline

set_option autoImplicit false

structure EndedIn (less more : Timeline) : Prop where
  cancelled : less.cancelled ⊆ more.cancelled
  recorded : ∀ record, (less.recorded? record).isSome → (more.recorded? record).isSome

section

variable {less more : Timeline}

/-- To cancel a context is to write its record, whatever else is known of it. -/
theorem recorded_cancel_is_some (timeline : Timeline) (context : Context) (record : Nat) :
    ((timeline.cancel context).recorded? record).isSome ↔
      record = context.record ∨ (timeline.recorded? record).isSome := by
  have tokens : (timeline.cancelToken context.token).recorded? record =
      timeline.recorded? record := rfl
  rw [cancel_eq_observe]
  by_cases same : record = context.record
  · have recorded := recorded_of_observe (observe_cancel_token timeline context)
    rw [same, recorded]
    simp
  · rw [recorded_observe_other _ _ same, tokens]
    simp [same]

theorem ended_in_of_keeps (cancelled : less.cancelled ⊆ more.cancelled)
    (keeps : less.Keeps more) : less.EndedIn more := by
  constructor
  · exact cancelled
  · intro record written
    rcases Option.isSome_iff_exists.1 written with ⟨reason, recorded⟩
    rw [keeps record reason recorded]
    rfl

theorem ended_in_fire (timeline : Timeline) (target : AlarmTarget) :
    timeline.EndedIn (timeline.fire target) :=
  ended_in_of_keeps (fire_cancelled_subset timeline target) (keeps_fire timeline target)

namespace EndedIn

theorem trans {most : Timeline} (first : less.EndedIn more) (second : more.EndedIn most) :
    less.EndedIn most :=
  ⟨fun _ member => second.cancelled (first.cancelled member),
    fun record written => second.recorded record (first.recorded record written)⟩

theorem move_to (ended : less.EndedIn more) (early late : Nat) :
    (less.moveTo early).EndedIn (more.moveTo late) :=
  ⟨ended.cancelled, ended.recorded⟩

theorem with_alarms (ended : less.EndedIn more) (fewer others : List Alarm) :
    { less with alarms := fewer }.EndedIn { more with alarms := others } :=
  ⟨ended.cancelled, ended.recorded⟩

/-- What is cancelled on both timelines leaves them as they were to one another. -/
theorem fire (ended : less.EndedIn more) (target : AlarmTarget) :
    (less.fire target).EndedIn (more.fire target) := by
  cases target with
  | token token => exact ⟨List.cons_subset_cons _ ended.cancelled, ended.recorded⟩
  | context context =>
      constructor
      · simp only [Timeline.fire, cancel_cancelled]
        exact List.cons_subset_cons _ ended.cancelled
      · intro record
        simp only [Timeline.fire, recorded_cancel_is_some]
        exact Or.imp_right (ended.recorded record)

theorem pass_alarms (ended : less.EndedIn more) (instant : Nat) (alarms : List Alarm) :
    (passAlarms instant alarms less).EndedIn (passAlarms instant alarms more) := by
  induction alarms generalizing less more with
  | nil => exact (ended.with_alarms [] []).move_to instant instant
  | cons alarm rest ih =>
      unfold passAlarms
      split
      · exact ih ((ended.move_to alarm.due alarm.due).fire alarm.target)
      · exact (ended.with_alarms _ _).move_to instant instant

theorem alarm (ended : less.EndedIn more) (extra : Alarm) :
    less.EndedIn ((more.moveTo extra.due).fire extra.target) := by
  have moved : less.EndedIn (more.moveTo extra.due) := ⟨ended.cancelled, ended.recorded⟩
  exact moved.trans (ended_in_fire _ extra.target)

/-- Whether an alarm more has gone off by then or is still to come, nothing less has ended. -/
theorem pass_alarms_insert (ended : less.EndedIn more) (instant : Nat) (extra : Alarm)
    (alarms : List Alarm) :
    (passAlarms instant alarms less).EndedIn
      (passAlarms instant (insertAlarm extra alarms) more) := by
  induction alarms generalizing less more with
  | nil =>
      simp only [insertAlarm, passAlarms]
      split
      · exact ((ended.alarm extra).with_alarms [] []).move_to instant instant
      · exact (ended.with_alarms [] [extra]).move_to instant instant
  | cons alarm rest ih =>
      by_cases first : extra.due < alarm.due
      · rw [insertAlarm, if_pos first]
        by_cases due : extra.due < instant
        · have goneOff : passAlarms instant (extra :: alarm :: rest) more =
              passAlarms instant (alarm :: rest) ((more.moveTo extra.due).fire extra.target) :=
            if_pos due
          rw [goneOff]
          exact (ended.alarm extra).pass_alarms instant (alarm :: rest)
        · -- No alarm behind it is reached either.
          have notDue : ¬ alarm.due < instant := by omega
          rw [passAlarms, passAlarms, if_neg due, if_neg notDue]
          exact (ended.with_alarms _ _).move_to instant instant
      · rw [insertAlarm, if_neg first, passAlarms, passAlarms]
        split
        · exact ih ((ended.move_to alarm.due alarm.due).fire alarm.target)
        · exact (ended.with_alarms _ _).move_to instant instant

theorem is_token_cancelled (ended : less.EndedIn more) {token : Token}
    (cancelled : less.isTokenCancelled token = true) : more.isTokenCancelled token = true :=
  token_stays_cancelled ended.cancelled cancelled

theorem fired (ended : less.EndedIn more) (sameClock : more.now = less.now) {context : Context}
    (fired : (less.fired? context).isSome) : (more.fired? context).isSome := by
  have past : more.isPast context = less.isPast context := by
    unfold isPast
    rw [sameClock]
  rw [fired_is_some_eq, Bool.or_eq_true] at fired ⊢
  rw [past]
  exact Or.imp_right ended.is_token_cancelled fired

theorem reported (ended : less.EndedIn more) (sameClock : more.now = less.now)
    {context : Context} (reported : (less.observe context).1.isSome) :
    (more.observe context).1.isSome := by
  rw [observe_fst, Option.isSome_or, Bool.or_eq_true] at reported ⊢
  exact Or.imp (ended.recorded _) (ended.fired sameClock) reported

end EndedIn

end

/-- Whether a context that has ended on a timeline at an instant to come has ended by then on
another one that shows the same time. -/
structure Forestalls (more less : Timeline) : Prop where
  now : more.now = less.now
  ended : ∀ instant, less.now ≤ instant → (less.passTo instant).EndedIn (more.passTo instant)

/-- A cancellation that happens at once forestalls what would be without it. -/
theorem fire_forestalls (timeline : Timeline) (target : AlarmTarget) :
    (timeline.fire target).Forestalls timeline := by
  constructor
  · exact fire_now timeline target
  · intro instant _
    rw [passTo, passTo, fire_alarms]
    apply EndedIn.pass_alarms
    exact ended_in_fire timeline target

/-- So does one that is still to come. -/
theorem schedule_forestalls (timeline : Timeline) (delay : Nat) (target : AlarmTarget) :
    (timeline.schedule delay target).Forestalls timeline := by
  have unchanged : timeline.EndedIn (timeline.schedule delay target) :=
    ⟨List.Subset.refl _, fun _ => id⟩
  constructor
  · rfl
  · intro instant _
    exact unchanged.pass_alarms_insert instant _ timeline.alarms

namespace Forestalls

variable {less more : Timeline} (forestalls : more.Forestalls less)
include forestalls

theorem pass_to (instant : Nat) : (more.passTo instant).Forestalls (less.passTo instant) := by
  constructor
  · rw [pass_to_now, pass_to_now, forestalls.now]
  · intro later notBefore
    rw [pass_to_now] at notBefore
    have onward : instant ≤ later := by omega
    rw [pass_to_pass_to _ onward, pass_to_pass_to _ onward]
    apply forestalls.ended
    omega

theorem pass (milliseconds : Nat) :
    (more.pass milliseconds).Forestalls (less.pass milliseconds) := by
  unfold Timeline.pass
  rw [forestalls.now]
  exact forestalls.pass_to _

theorem ends_by {context : Context} {reached instant : Nat} (forward : less.now ≤ reached)
    (later : reached ≤ instant) (ends : (less.passTo reached).EndsBy context instant) :
    (more.passTo reached).EndsBy context instant := by
  unfold EndsBy at ends ⊢
  rw [pass_to_pass_to _ later] at ends ⊢
  apply Or.imp _ _ ends
  · apply (forestalls.ended reached forward).reported
    rw [pass_to_now, pass_to_now, forestalls.now]
  · apply (forestalls.ended instant (Nat.le_trans forward later)).fired
    rw [pass_to_now, pass_to_now, forestalls.now]

end Forestalls

end CertSteward.Timeline
