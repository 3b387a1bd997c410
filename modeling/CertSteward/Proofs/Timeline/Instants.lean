import CertSteward.Proofs.Timeline.Ending

/-!
# When a context ends

The alarms that are set tell beforehand when a token will be cancelled, and
with the deadline when a context will have ended. Letting the clock run does
not change that instant unless it runs past it, and waiting for the end of the
context stops the clock there.
-/

namespace CertSteward

set_option autoImplicit false

namespace Timeline

variable {timeline : Timeline} {context : Context} {token : Token} {instant : Nat}

def targetToken : AlarmTarget → Token
  | .context context => context.token
  | .token token => token

def reaches (token : Token) (target : AlarmTarget) : Bool :=
  (token.id :: token.ancestors).contains (targetToken target).id

/-- When the first alarm that cancels a token goes off. Alarms are taken in turn, and none goes
off before the one in front of it. -/
def alarmInstant? (token : Token) : Nat → List Alarm → Option Nat
  | _, [] => none
  | now, alarm :: rest =>
      if reaches token alarm.target then some (max now alarm.due)
      else alarmInstant? token (max now alarm.due) rest

def cancelInstant? (token : Token) (alarms : List Alarm) (timeline : Timeline) : Option Nat :=
  if timeline.isTokenCancelled token then some timeline.now
  else alarmInstant? token timeline.now alarms

def endInstant? (timeline : Timeline) (context : Context) : Option Nat :=
  Option.merge min (context.deadline.map (max timeline.now))
    (cancelInstant? context.token timeline.alarms timeline)

theorem is_token_cancelled_fire (timeline : Timeline) (token : Token) (target : AlarmTarget) :
    (timeline.fire target).isTokenCancelled token =
      (timeline.isTokenCancelled token || reaches token target) := by
  have tokens :
      (timeline.fire target).cancelled = (targetToken target).id :: timeline.cancelled := by
    cases target with
    | context context => exact cancel_cancelled timeline context
    | token token => rfl
  rw [Bool.eq_iff_iff, Bool.or_eq_true, is_token_cancelled_iff, is_token_cancelled_iff, tokens,
    reaches, List.contains_iff_mem]
  constructor
  · rintro ⟨id, above, member⟩
    rcases List.mem_cons.1 member with rfl | earlier
    · exact Or.inr above
    · exact Or.inl ⟨id, above, earlier⟩
  · rintro (⟨id, above, earlier⟩ | above)
    · exact ⟨id, above, List.mem_cons_of_mem _ earlier⟩
    · exact ⟨_, above, List.mem_cons_self⟩

theorem is_token_cancelled_alarm (timeline : Timeline) (token : Token) (alarm : Alarm) :
    ((timeline.moveTo alarm.due).fire alarm.target).isTokenCancelled token =
      (timeline.isTokenCancelled token || reaches token alarm.target) :=
  is_token_cancelled_fire _ _ _

theorem alarm_instant_ge {now : Nat} {alarms : List Alarm}
    (goesOff : alarmInstant? token now alarms = some instant) : now ≤ instant := by
  induction alarms generalizing now with
  | nil => contradiction
  | cons alarm rest ih =>
      unfold alarmInstant? at goesOff
      split at goesOff
      · cases goesOff
        exact Nat.le_max_left _ _
      · exact Nat.le_trans (Nat.le_max_left _ _) (ih goesOff)

/-- An alarm that goes off later goes off at the same instant if the clock has run meanwhile. -/
theorem alarm_instant_from {now : Nat} {alarm : Alarm} (forward : now ≤ instant)
    (late : instant ≤ alarm.due) (rest : List Alarm) :
    alarmInstant? token now (alarm :: rest) = alarmInstant? token instant (alarm :: rest) := by
  have same : max now alarm.due = max instant alarm.due := by omega
  rw [alarmInstant?, alarmInstant?, same]

/-- The alarms before an instant either cancel a token on the way there or have nothing to do with
the instant at which it is cancelled. -/
theorem alarm_instant_pass_alarms (token : Token) (alarms : List Alarm) {timeline : Timeline}
    (forward : timeline.now ≤ instant) (live : timeline.isTokenCancelled token = false) :
    let after := passAlarms instant alarms timeline
    (after.isTokenCancelled token = true ∧
        ∃ cancelled, alarmInstant? token timeline.now alarms = some cancelled ∧
          cancelled ≤ instant ∧ (timeline.now < instant → cancelled < instant)) ∨
      after.isTokenCancelled token = false ∧
        alarmInstant? token timeline.now alarms = alarmInstant? token instant after.alarms := by
  induction alarms generalizing timeline with
  | nil => exact Or.inr ⟨live, rfl⟩
  | cons alarm rest ih =>
      by_cases due : alarm.due < instant
      · have moved : ((timeline.moveTo alarm.due).fire alarm.target).now =
            max timeline.now alarm.due := by rw [fire_now, move_to_now]
        have now_cancelled := is_token_cancelled_alarm timeline token alarm
        rw [live, Bool.false_or] at now_cancelled
        rw [passAlarms, if_pos due, alarmInstant?]
        cases hit : reaches token alarm.target with
        | true =>
            have stays := token_stays_cancelled
              (pass_alarms_cancelled_subset instant rest _) (now_cancelled.trans hit)
            exact Or.inl ⟨stays, _, rfl, by omega, by omega⟩
        | false =>
            have later := ih (by omega) (now_cancelled.trans hit)
            rw [moved] at later
            rw [if_neg Bool.false_ne_true]
            refine later.imp_left ?_
            rintro ⟨stays, cancelled, found, reached, strict⟩
            exact ⟨stays, cancelled, found, reached, fun before =>
              strict (Nat.max_lt.mpr ⟨before, due⟩)⟩
      · rw [passAlarms, if_neg due]
        exact Or.inr ⟨live, alarm_instant_from forward (Nat.le_of_not_lt due) rest⟩

theorem cancel_instant_ge {alarms : List Alarm}
    (cancels : cancelInstant? token alarms timeline = some instant) : timeline.now ≤ instant := by
  unfold cancelInstant? at cancels
  split at cancels
  · exact Nat.le_of_eq (Option.some.inj cancels)
  · exact alarm_instant_ge cancels

/-- No context ends in the past. -/
theorem end_instant_ge (ends : timeline.endInstant? context = some instant) :
    timeline.now ≤ instant := by
  unfold endInstant? at ends
  cases bound : context.deadline with
  | none =>
      rw [bound, Option.map_none, Option.merge_none_left] at ends
      exact cancel_instant_ge ends
  | some deadline =>
      cases found : cancelInstant? context.token timeline.alarms timeline with
      | none =>
          rw [bound, found, Option.map_some, Option.merge_none_right] at ends
          exact Nat.le_trans (Nat.le_max_left _ _) (Nat.le_of_eq (Option.some.inj ends))
      | some cancelled =>
          have later := cancel_instant_ge found
          rw [bound, found, Option.map_some, Option.merge_some_some] at ends
          have least := Option.some.inj ends
          omega

theorem map_max_of_ge {found : Option Nat} (later : ∀ instant', found = some instant' →
    instant ≤ instant') : found.map (max instant) = found := by
  cases found with
  | none => rfl
  | some instant' => simp [later instant' rfl]

theorem cancel_instant_pass_alarms (token : Token) (alarms : List Alarm)
    (forward : timeline.now ≤ instant) :
    cancelInstant? token (passAlarms instant alarms timeline).alarms
        (passAlarms instant alarms timeline) =
      (cancelInstant? token alarms timeline).map (max instant) := by
  have now : (passAlarms instant alarms timeline).now = instant := by
    rw [pass_alarms_now]
    exact Nat.max_eq_right forward
  cases cancelled : timeline.isTokenCancelled token with
  | true =>
      have stays := token_stays_cancelled
        (pass_alarms_cancelled_subset instant alarms timeline) cancelled
      rw [cancelInstant?, cancelInstant?, if_pos stays, if_pos cancelled, now, Option.map_some,
        Nat.max_eq_left forward]
  | false =>
      rw [cancelInstant?, cancelInstant?, cancelled, if_neg Bool.false_ne_true, now]
      obtain ⟨stays, found, cancels, reached, -⟩ | ⟨still, same⟩ :=
        alarm_instant_pass_alarms token alarms forward cancelled
      · rw [if_pos stays, cancels, Option.map_some, Nat.max_eq_left reached]
      · rw [still, if_neg Bool.false_ne_true, same]
        exact (map_max_of_ge fun _ goesOff => alarm_instant_ge goesOff).symm

/-- The clock does not change when a context ends, except that what is past is past. -/
theorem end_instant_pass_to (context : Context) (forward : timeline.now ≤ instant) :
    (timeline.passTo instant).endInstant? context =
      (timeline.endInstant? context).map (max instant) := by
  have tokens := cancel_instant_pass_alarms context.token timeline.alarms forward
  have now : max timeline.now instant = instant := by omega
  rw [endInstant?, endInstant?, passTo, tokens, pass_alarms_now, now]
  cases context.deadline with
  | none => cases cancelInstant? context.token timeline.alarms timeline <;> rfl
  | some deadline =>
      cases cancelInstant? context.token timeline.alarms timeline with
      | none =>
          simp only [Option.map_some, Option.map_none, Option.merge_none_right]
          exact congrArg some (by omega)
      | some cancelled =>
          simp only [Option.map_some, Option.merge_some_some]
          exact congrArg some (by omega)

theorem token_cancelled_by_iff (token : Token) (alarms : List Alarm)
    (forward : timeline.now < instant) :
    (passAlarms instant alarms timeline).isTokenCancelled token = true ↔
      ∃ cancelled, cancelInstant? token alarms timeline = some cancelled ∧
        cancelled < instant := by
  cases cancelled : timeline.isTokenCancelled token with
  | true =>
      have stays := token_stays_cancelled
        (pass_alarms_cancelled_subset instant alarms timeline) cancelled
      simp [cancelInstant?, cancelled, stays, forward]
  | false =>
      rw [cancelInstant?, cancelled, if_neg Bool.false_ne_true]
      obtain ⟨stays, found, cancels, -, before⟩ | ⟨still, same⟩ :=
        alarm_instant_pass_alarms token alarms (Nat.le_of_lt forward) cancelled
      · exact ⟨fun _ => ⟨found, cancels, before forward⟩, fun _ => stays⟩
      -- What is left goes off at the instant or later.
      · rw [still, same]
        simp only [Bool.false_eq_true, false_iff, not_exists, not_and, Nat.not_lt]
        intro found goesOff
        exact alarm_instant_ge goesOff

/-- The clock being let run past an instant shows a cause exactly if the context ends by then. -/
theorem fired_pass_to_iff (context : Context) (forward : timeline.now < instant)
    (untied : timeline.endInstant? context ≠ some instant) :
    ((timeline.passTo instant).fired? context).isSome ↔
      ∃ ended, timeline.endInstant? context = some ended ∧ ended < instant := by
  have tokens := token_cancelled_by_iff context.token timeline.alarms forward
  have now : (timeline.passTo instant).now = instant := by
    rw [pass_to_now]
    omega
  rw [fired_is_some_eq, Bool.or_eq_true, is_past_iff, now, passTo, tokens]
  unfold endInstant? at untied ⊢
  cases bound : context.deadline with
  | none => simp
  | some deadline =>
      rw [bound] at untied
      cases found : cancelInstant? context.token timeline.alarms timeline with
      | none =>
          simp only [found, Option.map_some, Option.merge_none_right, ne_eq,
            Option.some.injEq] at untied
          simp only [Option.map_some, Option.merge_none_right, Option.some.injEq,
            exists_eq_left', reduceCtorEq, false_and, exists_false, or_false]
          omega
      | some cancelled =>
          simp only [found, Option.map_some, Option.merge_some_some, ne_eq,
            Option.some.injEq] at untied
          simp only [Option.map_some, Option.merge_some_some, Option.some.injEq,
            exists_eq_left']
          omega

theorem end_instant_of_fired (fired : (timeline.fired? context).isSome) :
    timeline.endInstant? context = some timeline.now := by
  rw [fired_is_some_eq, Bool.or_eq_true, is_past_iff] at fired
  rw [endInstant?]
  rcases fired with ⟨deadline, bound, past⟩ | cancelled
  · have now : max timeline.now deadline = timeline.now := by omega
    rw [bound, Option.map_some, now]
    cases found : cancelInstant? context.token timeline.alarms timeline with
    | none => rfl
    | some cancelled =>
        rw [Option.merge_some_some, Nat.min_eq_left (cancel_instant_ge found)]
  · rw [cancelInstant?, if_pos cancelled]
    cases context.deadline with
    | none => rfl
    | some deadline =>
        rw [Option.map_some, Option.merge_some_some, Nat.min_eq_right (Nat.le_max_left _ _)]

/-- A wait for a cancellation stops the clock when the token is cancelled. -/
theorem pass_until_cancelled_now (token : Token) (alarms : List Alarm) {timeline : Timeline}
    (forward : timeline.now ≤ instant) (live : timeline.isTokenCancelled token = false) :
    (passUntilCancelled token instant alarms timeline).now =
      ((alarmInstant? token timeline.now alarms).map (min instant)).getD instant := by
  induction alarms generalizing timeline with
  | nil =>
      rw [passUntilCancelled, move_to_now]
      exact Nat.max_eq_right forward
  | cons alarm rest ih =>
      simp only [passUntilCancelled, is_token_cancelled_alarm, live, Bool.false_or]
      by_cases due : alarm.due < instant
      · have moved : ((timeline.moveTo alarm.due).fire alarm.target).now =
            max timeline.now alarm.due := by rw [fire_now, move_to_now]
        rw [if_pos due, alarmInstant?]
        cases hit : reaches token alarm.target with
        | true =>
            simp only [if_true, moved, Option.map_some, Option.getD_some]
            omega
        | false =>
            have still : ((timeline.moveTo alarm.due).fire alarm.target).isTokenCancelled
                token = false := by rw [is_token_cancelled_alarm, live, hit, Bool.or_false]
            rw [if_neg Bool.false_ne_true, if_neg Bool.false_ne_true,
              ih (by rw [moved]; omega) still, moved]
      · rw [if_neg due, move_to_now]
        cases found : alarmInstant? token timeline.now (alarm :: rest) with
        | none => exact Nat.max_eq_right forward
        | some goesOff =>
            rw [alarm_instant_from forward (Nat.le_of_not_lt due)] at found
            have late := alarm_instant_ge found
            simp only [Option.map_some, Option.getD_some]
            omega

theorem pass_until_cancelled_at_end {limit ended : Nat}
    (live : timeline.isTokenCancelled context.token = false)
    (notPast : timeline.isPast context = false)
    (ends : timeline.endInstant? context = some ended) (early : ended ≤ limit) :
    (passUntilCancelled context.token (lookout context limit) timeline.alarms timeline).now =
      ended := by
  have later := end_instant_ge ends
  rw [endInstant?, cancelInstant?, live, if_neg Bool.false_ne_true] at ends
  cases bound : context.deadline with
  | none =>
      have limited : lookout context limit = limit := by rw [lookout, bound]
      rw [bound, Option.map_none, Option.merge_none_left] at ends
      rw [limited, pass_until_cancelled_now _ _ (by omega) live, ends, Option.map_some,
        Option.getD_some]
      omega
  | some deadline =>
      have limited : lookout context limit = min deadline limit := by rw [lookout, bound]
      have ahead : timeline.now < deadline := by
        rw [← Bool.not_eq_true, is_past_iff] at notPast
        exact Nat.lt_of_not_le fun past => notPast ⟨deadline, bound, past⟩
      rw [limited, pass_until_cancelled_now _ _ (by omega) live]
      cases found : alarmInstant? context.token timeline.now timeline.alarms with
      | none =>
          rw [bound, found, Option.map_some, Option.merge_none_right] at ends
          have reached := Option.some.inj ends
          rw [Option.map_none, Option.getD_none]
          omega
      | some cancelled =>
          rw [bound, found, Option.map_some, Option.merge_some_some] at ends
          have least := Option.some.inj ends
          rw [Option.map_some, Option.getD_some]
          omega

/-- Whether a context says it has ended only where a cause is to be seen, now and as long as the
clock runs. -/
def Honest (timeline : Timeline) (context : Context) : Prop :=
  ∀ instant, ((timeline.passTo instant).observe context).1.isSome →
    ((timeline.passTo instant).fired? context).isSome

/-- A context ends by an instant to come exactly if its end is before that. -/
theorem ends_by_iff {ended : Nat} (forward : timeline.now < instant)
    (honest : (timeline.observe context).1.isSome → (timeline.fired? context).isSome)
    (ends : timeline.endInstant? context = some ended) (untied : ended ≠ instant) :
    timeline.EndsBy context instant ↔ ended < instant := by
  have fired := fired_pass_to_iff context forward (by simpa [ends] using untied)
  rw [ends] at fired
  simp only [Option.some.injEq, exists_eq_left'] at fired
  have seen : (timeline.observe context).1.isSome →
      ((timeline.passTo instant).fired? context).isSome := by
    intro reported
    have now := end_instant_of_fired (honest reported)
    have past : ended = timeline.now := Option.some.inj (ends.symm.trans now)
    exact fired.2 (by omega)
  unfold EndsBy
  rw [or_iff_right_of_imp seen, fired]

/-- A wait for the end of a context that ends within its limit stops the clock at that end. -/
theorem await_end_now {limit ended : Nat}
    (honest : (timeline.observe context).1.isSome → (timeline.fired? context).isSome)
    (ends : timeline.endInstant? context = some ended) (early : ended ≤ limit) :
    (timeline.awaitEnd context limit).2.now = ended := by
  cases look : (timeline.observe context).1 with
  | some reason =>
      have now := end_instant_of_fired (honest (by rw [look]; rfl))
      rw [await_end_of_ended look, observe_now]
      rw [ends] at now
      exact (Option.some.inj now).symm
  | none =>
      obtain ⟨notPast, live⟩ :=
        (fired_eq_none_iff _ _).1 ((observe_eq_none_iff _ _).1 look).2
      have stop := pass_until_cancelled_at_end live notPast ends early
      rw [await_end_of_live look]
      dsimp only
      split
      · rw [observe_now]
        exact stop
      · exact stop

end Timeline

end CertSteward
