import CertSteward.Timeline

/-!
# The clock and the alarms

What the operations of a timeline leave alone, and how the clock runs. Letting
it run to one instant and from there to a later one is the same as letting it
run to the later one at once, and cancelled tokens stay cancelled. Waiting for
a context to end is letting the clock run until its deadline, its token or the
limit is reached, whichever comes first.
-/

namespace CertSteward.Timeline

set_option autoImplicit false

variable {timeline : Timeline} {context : Context} {token : Token} {reason : EndReason}

@[simp] theorem move_to_now (timeline : Timeline) (instant : Nat) :
    (timeline.moveTo instant).now = max timeline.now instant := rfl

@[simp] theorem move_to_cancelled (timeline : Timeline) (instant : Nat) :
    (timeline.moveTo instant).cancelled = timeline.cancelled := rfl

@[simp] theorem move_to_records (timeline : Timeline) (instant : Nat) :
    (timeline.moveTo instant).records = timeline.records := rfl

@[simp] theorem write_record_now (timeline : Timeline) (record : Nat) (reason : EndReason) :
    (timeline.writeRecord record reason).now = timeline.now := by
  unfold writeRecord
  split <;> rfl

@[simp] theorem write_record_cancelled (timeline : Timeline) (record : Nat)
    (reason : EndReason) :
    (timeline.writeRecord record reason).cancelled = timeline.cancelled := by
  unfold writeRecord
  split <;> rfl

@[simp] theorem write_record_fresh (timeline : Timeline) (record : Nat) (reason : EndReason) :
    (timeline.writeRecord record reason).fresh = timeline.fresh := by
  unfold writeRecord
  split <;> rfl

@[simp] theorem write_record_alarms (timeline : Timeline) (record : Nat) (reason : EndReason) :
    (timeline.writeRecord record reason).alarms = timeline.alarms := by
  unfold writeRecord
  split <;> rfl

/-- A look reports the record, and where that is blank the cause to be seen now. -/
theorem observe_fst (timeline : Timeline) (context : Context) :
    (timeline.observe context).1 =
      (timeline.recorded? context.record).or (timeline.fired? context) := by
  unfold observe
  cases recorded : timeline.recorded? context.record with
  | some reason => rfl
  | none => cases fired : timeline.fired? context <;> rfl

/-- A look at a context writes its record and nothing else. -/
theorem observe_snd (timeline : Timeline) (context : Context) :
    (timeline.observe context).2 =
      match (timeline.observe context).1 with
      | some reason => timeline.writeRecord context.record reason
      | none => timeline := by
  unfold observe
  split
  · rename_i reason recorded
    simp [writeRecord, recorded]
  · split <;> rfl

@[simp] theorem observe_now (timeline : Timeline) (context : Context) :
    (timeline.observe context).2.now = timeline.now := by
  rw [observe_snd]
  split <;> simp

@[simp] theorem observe_cancelled (timeline : Timeline) (context : Context) :
    (timeline.observe context).2.cancelled = timeline.cancelled := by
  rw [observe_snd]
  split <;> simp

@[simp] theorem observe_fresh (timeline : Timeline) (context : Context) :
    (timeline.observe context).2.fresh = timeline.fresh := by
  rw [observe_snd]
  split <;> simp

@[simp] theorem observe_alarms (timeline : Timeline) (context : Context) :
    (timeline.observe context).2.alarms = timeline.alarms := by
  rw [observe_snd]
  split <;> simp

@[simp] theorem cancel_now (timeline : Timeline) (context : Context) :
    (timeline.cancel context).now = timeline.now := by
  simp [cancel, cancelToken]

@[simp] theorem cancel_cancelled (timeline : Timeline) (context : Context) :
    (timeline.cancel context).cancelled = context.token.id :: timeline.cancelled := by
  simp [cancel, cancelToken]

@[simp] theorem cancel_fresh (timeline : Timeline) (context : Context) :
    (timeline.cancel context).fresh = timeline.fresh := by
  simp [cancel, cancelToken]

@[simp] theorem cancel_alarms (timeline : Timeline) (context : Context) :
    (timeline.cancel context).alarms = timeline.alarms := by
  simp [cancel, cancelToken]

@[simp] theorem fire_now (timeline : Timeline) (target : AlarmTarget) :
    (timeline.fire target).now = timeline.now := by
  cases target <;> simp [fire, cancelToken]

@[simp] theorem fire_fresh (timeline : Timeline) (target : AlarmTarget) :
    (timeline.fire target).fresh = timeline.fresh := by
  cases target <;> simp [fire, cancelToken]

@[simp] theorem fire_alarms (timeline : Timeline) (target : AlarmTarget) :
    (timeline.fire target).alarms = timeline.alarms := by
  cases target <;> simp [fire, cancelToken]

theorem fire_cancelled_subset (timeline : Timeline) (target : AlarmTarget) :
    timeline.cancelled ⊆ (timeline.fire target).cancelled := by
  cases target <;> simp [fire, cancelToken]

theorem write_record_with_alarms (timeline : Timeline) (alarms : List Alarm) (record : Nat)
    (reason : EndReason) :
    { timeline with alarms := alarms }.writeRecord record reason =
      { timeline.writeRecord record reason with alarms := alarms } := by
  cases written : timeline.records.lookup record <;> simp [writeRecord, recorded?, written]

/-- What an alarm does is independent of the alarms that are yet to come. -/
theorem fire_with_alarms (timeline : Timeline) (alarms : List Alarm) (target : AlarmTarget) :
    { timeline with alarms := alarms }.fire target =
      { timeline.fire target with alarms := alarms } := by
  have seen (context : Context) :
      ({ timeline with alarms := alarms }.observe context).1 =
        (timeline.observe context).1 := by
    rw [observe_fst, observe_fst]
    rfl
  cases target with
  | token token => rfl
  | context context =>
      simp only [fire, cancel, observe_snd, seen]
      split <;> simp only [write_record_with_alarms, cancelToken]

theorem mem_insert_alarm {alarm other : Alarm} {alarms : List Alarm}
    (member : other ∈ insertAlarm alarm alarms) : other = alarm ∨ other ∈ alarms := by
  induction alarms with
  | nil => exact Or.inl (List.mem_singleton.1 member)
  | cons head rest ih =>
      unfold insertAlarm at member
      split at member
      · exact List.mem_cons.1 member
      · rcases List.mem_cons.1 member with rfl | later
        · exact Or.inr List.mem_cons_self
        · rcases ih later with same | earlier
          · exact Or.inl same
          · exact Or.inr (List.mem_cons_of_mem _ earlier)

theorem is_token_cancelled_iff (timeline : Timeline) (token : Token) :
    timeline.isTokenCancelled token = true ↔
      ∃ id ∈ token.id :: token.ancestors, id ∈ timeline.cancelled := by
  simp [isTokenCancelled]

theorem token_stays_cancelled {earlier later : Timeline}
    (grown : earlier.cancelled ⊆ later.cancelled)
    (cancelled : earlier.isTokenCancelled token = true) :
    later.isTokenCancelled token = true := by
  rw [is_token_cancelled_iff] at cancelled ⊢
  obtain ⟨id, above, member⟩ := cancelled
  exact ⟨id, above, grown member⟩

theorem token_live_before {earlier later : Timeline}
    (grown : earlier.cancelled ⊆ later.cancelled)
    (live : later.isTokenCancelled token = false) :
    earlier.isTokenCancelled token = false := by
  cases cancelled : earlier.isTokenCancelled token with
  | false => rfl
  | true =>
      rw [token_stays_cancelled grown cancelled] at live
      contradiction

@[simp] theorem pass_alarms_now (instant : Nat) (alarms : List Alarm) (timeline : Timeline) :
    (passAlarms instant alarms timeline).now = max timeline.now instant := by
  induction alarms generalizing timeline with
  | nil => rfl
  | cons alarm rest ih =>
      unfold passAlarms
      split
      · rename_i due
        rw [ih, fire_now, move_to_now]
        omega
      · rfl

@[simp] theorem pass_to_now (timeline : Timeline) (instant : Nat) :
    (timeline.passTo instant).now = max timeline.now instant :=
  pass_alarms_now instant timeline.alarms timeline

theorem pass_now (timeline : Timeline) (milliseconds : Nat) :
    (timeline.pass milliseconds).now = timeline.now + milliseconds := by
  rw [pass, pass_to_now]
  omega

theorem pass_alarms_cancelled_subset (instant : Nat) (alarms : List Alarm)
    (timeline : Timeline) :
    timeline.cancelled ⊆ (passAlarms instant alarms timeline).cancelled := by
  induction alarms generalizing timeline with
  | nil => exact fun id member => member
  | cons alarm rest ih =>
      unfold passAlarms
      split
      · have fired := fire_cancelled_subset (timeline.moveTo alarm.due) alarm.target
        exact fun id member => ih _ (fired member)
      · exact fun id member => member

theorem pass_alarms_with_alarms (instant : Nat) (alarms others : List Alarm)
    (timeline : Timeline) :
    passAlarms instant alarms { timeline with alarms := others } =
      passAlarms instant alarms timeline := by
  induction alarms generalizing timeline with
  | nil => rfl
  | cons alarm rest ih =>
      unfold passAlarms
      split
      · have moved : { timeline with alarms := others }.moveTo alarm.due =
            { timeline.moveTo alarm.due with alarms := others } := rfl
        rw [moved, fire_with_alarms, ih]
      · rfl

theorem move_to_move_to (timeline : Timeline) {first second : Nat} (later : first ≤ second) :
    (timeline.moveTo first).moveTo second = timeline.moveTo second := by
  have clock : max (max timeline.now first) second = max timeline.now second := by omega
  simp only [moveTo, clock]

/-- The clock may be stopped on the way. -/
theorem pass_alarms_in_two_steps (alarms : List Alarm) (timeline : Timeline)
    {first second : Nat} (later : first ≤ second) :
    (passAlarms first alarms timeline).passTo second = passAlarms second alarms timeline := by
  induction alarms generalizing timeline with
  | nil => exact move_to_move_to _ later
  | cons alarm rest ih =>
      by_cases early : alarm.due < first
      · have earlyToo : alarm.due < second := by omega
        simp only [passAlarms, if_pos early, if_pos earlyToo]
        exact ih _
      · simp only [passAlarms, if_neg early]
        change passAlarms second (alarm :: rest) _ = _
        simp only [passAlarms]
        by_cases due : alarm.due < second
        · have stopped := move_to_move_to { timeline with alarms := alarm :: rest }
            (show first ≤ alarm.due by omega)
          have moved : { timeline with alarms := alarm :: rest }.moveTo alarm.due =
              { timeline.moveTo alarm.due with alarms := alarm :: rest } := rfl
          rw [if_pos due, if_pos due, stopped, moved, fire_with_alarms,
            pass_alarms_with_alarms]
        · rw [if_neg due, if_neg due]
          exact move_to_move_to _ later

theorem pass_to_pass_to (timeline : Timeline) {first second : Nat} (later : first ≤ second) :
    (timeline.passTo first).passTo second = timeline.passTo second :=
  pass_alarms_in_two_steps timeline.alarms timeline later

theorem pass_until_cancelled_is_token_cancelled (token : Token) (instant : Nat)
    (alarms : List Alarm) (timeline : Timeline) :
    (passUntilCancelled token instant alarms timeline).isTokenCancelled token =
      (passAlarms instant alarms timeline).isTokenCancelled token := by
  induction alarms generalizing timeline with
  | nil => rfl
  | cons alarm rest ih =>
      simp only [passUntilCancelled, passAlarms]
      split
      · split
        · rename_i cancelled
          have stays := token_stays_cancelled
            (pass_alarms_cancelled_subset instant rest _) cancelled
          rw [stays]
          exact cancelled
        · exact ih _
      · rfl

/-- A stop at a cancellation is a stop before any deadline that the limit keeps to. -/
theorem pass_until_cancelled_stops_before {deadline instant : Nat} (bounded : instant ≤ deadline)
    (token : Token) (alarms : List Alarm) (timeline : Timeline) (early : timeline.now < deadline)
    (live : timeline.isTokenCancelled token = false)
    (cancelled : (passUntilCancelled token instant alarms timeline).isTokenCancelled token =
      true) :
    (passUntilCancelled token instant alarms timeline).now < deadline := by
  induction alarms generalizing timeline with
  | nil =>
      have unchanged : timeline.isTokenCancelled token = true := cancelled
      rw [live] at unchanged
      contradiction
  | cons alarm rest ih =>
      simp only [passUntilCancelled] at cancelled ⊢
      split at cancelled
      · rename_i due
        have moved : ((timeline.moveTo alarm.due).fire alarm.target).now < deadline := by
          rw [fire_now, move_to_now]
          omega
        rw [if_pos due]
        split at cancelled
        · rename_i stopped
          rw [if_pos stopped]
          exact moved
        · rename_i goesOn
          rw [if_neg goesOn]
          exact ih _ moved (Bool.eq_false_iff.2 goesOn) cancelled
      · have unchanged : timeline.isTokenCancelled token = true := cancelled
        rw [live] at unchanged
        contradiction

theorem pass_until_cancelled_of_live (token : Token) (instant : Nat) (alarms : List Alarm)
    (timeline : Timeline)
    (live : (passAlarms instant alarms timeline).isTokenCancelled token = false) :
    passUntilCancelled token instant alarms timeline = passAlarms instant alarms timeline := by
  induction alarms generalizing timeline with
  | nil => rfl
  | cons alarm rest ih =>
      simp only [passUntilCancelled, passAlarms] at live ⊢
      split
      · rename_i due
        rw [if_pos due] at live
        have notYet := token_live_before (pass_alarms_cancelled_subset instant rest _) live
        rw [if_neg (by rw [notYet]; exact Bool.false_ne_true)]
        exact ih _ live
      · rfl

end CertSteward.Timeline
