import CertSteward.Proofs.Timeline.Instants

/-!
# Alarms in order

The alarms of a timeline stand in the order in which they fall due, and none is
overdue. The first one that reaches a token is then the earliest, and a context
that has not ended ends with the earliest of what is set for it: its deadline,
or an alarm that reaches its token.
-/

namespace CertSteward.Timeline

set_option autoImplicit false

abbrev Sorted (alarms : List Alarm) : Prop :=
  alarms.Pairwise fun first second => first.due ≤ second.due

structure Orderly (timeline : Timeline) : Prop where
  sorted : Sorted timeline.alarms
  ahead : ∀ alarm ∈ timeline.alarms, timeline.now ≤ alarm.due

section

variable {timeline later : Timeline} {alarms : List Alarm}

theorem start_orderly : start.Orderly :=
  ⟨List.Pairwise.nil, fun _ absent => absurd absent List.not_mem_nil⟩

theorem insert_alarm_perm (alarm : Alarm) (alarms : List Alarm) :
    (insertAlarm alarm alarms).Perm (alarm :: alarms) := by
  induction alarms with
  | nil => exact List.Perm.refl _
  | cons head rest ih =>
      rw [insertAlarm]
      split
      · exact List.Perm.refl _
      · exact (ih.cons head).trans (List.Perm.swap alarm head rest)

theorem insert_alarm_sorted (alarm : Alarm) (sorted : Sorted alarms) :
    Sorted (insertAlarm alarm alarms) := by
  induction alarms with
  | nil => exact List.pairwise_singleton _ alarm
  | cons head rest ih =>
      obtain ⟨first, others⟩ := List.pairwise_cons.mp sorted
      rw [insertAlarm]
      split
      · rename_i before
        refine List.pairwise_cons.mpr ⟨?_, sorted⟩
        intro other member
        obtain rfl | behind := List.mem_cons.mp member
        · omega
        · have := first other behind
          omega
      · rename_i behind
        refine List.pairwise_cons.mpr ⟨?_, ih others⟩
        intro other member
        obtain rfl | earlier := mem_insert_alarm member
        · omega
        · exact first other earlier

theorem Orderly.of_same (orderly : timeline.Orderly) (now : later.now = timeline.now)
    (alarms : later.alarms = timeline.alarms) : later.Orderly := by
  constructor
  · rw [alarms]
    exact orderly.sorted
  · rw [alarms, now]
    exact orderly.ahead

theorem Orderly.schedule (orderly : timeline.Orderly) (delay : Nat) (target : AlarmTarget) :
    (timeline.schedule delay target).Orderly := by
  refine ⟨insert_alarm_sorted _ orderly.sorted, ?_⟩
  intro alarm member
  obtain rfl | earlier := mem_insert_alarm member
  · exact Nat.le_add_right _ _
  · exact orderly.ahead alarm earlier

theorem Orderly.observe (orderly : timeline.Orderly) (context : Context) :
    (timeline.observe context).2.Orderly :=
  orderly.of_same (observe_now _ _) (observe_alarms _ _)

/-- What is left when the clock is stopped at an alarm. -/
theorem stopped_orderly {alarm : Alarm} {rest : List Alarm} (sorted : Sorted (alarm :: rest))
    (ahead : timeline.now ≤ alarm.due) :
    ∀ other ∈ rest, ((timeline.moveTo alarm.due).fire alarm.target).now ≤ other.due := by
  intro other member
  have behind := (List.pairwise_cons.mp sorted).1 other member
  rw [fire_now, move_to_now]
  omega

theorem waiting_orderly {alarm : Alarm} {rest : List Alarm} {instant : Nat}
    (sorted : Sorted (alarm :: rest))
    (ahead : ∀ other ∈ alarm :: rest, timeline.now ≤ other.due) (late : ¬ alarm.due < instant) :
    ({ timeline with alarms := alarm :: rest }.moveTo instant).Orderly := by
  refine ⟨sorted, ?_⟩
  intro other member
  have notBefore : alarm.due ≤ other.due := by
    obtain rfl | behind := List.mem_cons.mp member
    · exact Nat.le_refl _
    · exact (List.pairwise_cons.mp sorted).1 other behind
  have := ahead other member
  rw [move_to_now]
  dsimp only
  omega

theorem pass_alarms_orderly (instant : Nat) (sorted : Sorted alarms)
    (ahead : ∀ alarm ∈ alarms, timeline.now ≤ alarm.due) :
    (passAlarms instant alarms timeline).Orderly := by
  induction alarms generalizing timeline with
  | nil => exact ⟨List.Pairwise.nil, fun _ absent => absurd absent List.not_mem_nil⟩
  | cons alarm rest ih =>
      unfold passAlarms
      split
      · exact ih (List.pairwise_cons.mp sorted).2
          (stopped_orderly sorted (ahead alarm List.mem_cons_self))
      · exact waiting_orderly sorted ahead ‹_›

theorem Orderly.pass (orderly : timeline.Orderly) (milliseconds : Nat) :
    (timeline.pass milliseconds).Orderly :=
  pass_alarms_orderly _ orderly.sorted orderly.ahead

theorem pass_until_cancelled_orderly (token : Token) (instant : Nat) (sorted : Sorted alarms)
    (ahead : ∀ alarm ∈ alarms, timeline.now ≤ alarm.due) :
    (passUntilCancelled token instant alarms timeline).Orderly := by
  induction alarms generalizing timeline with
  | nil => exact ⟨List.Pairwise.nil, fun _ absent => absurd absent List.not_mem_nil⟩
  | cons alarm rest ih =>
      have others := (List.pairwise_cons.mp sorted).2
      have stopped := stopped_orderly sorted (ahead alarm List.mem_cons_self)
      simp only [passUntilCancelled]
      split
      · split
        · exact ⟨others, stopped⟩
        · exact ih others stopped
      · exact waiting_orderly sorted ahead ‹_›

theorem Orderly.await_end (orderly : timeline.Orderly) (context : Context) (limit : Nat) :
    (timeline.awaitEnd context limit).2.Orderly := by
  cases look : (timeline.observe context).1 with
  | some reason =>
      rw [await_end_of_ended look]
      exact orderly.observe context
  | none =>
      have stopped := pass_until_cancelled_orderly context.token (lookout context limit)
        orderly.sorted orderly.ahead
      rw [await_end_of_live look]
      dsimp only
      split
      · exact stopped.observe context
      · exact stopped

/-- With no alarm overdue, nothing happens before the clock runs. -/
theorem Orderly.pass_to_now (orderly : timeline.Orderly) :
    timeline.passTo timeline.now = timeline := by
  have clock : max timeline.now timeline.now = timeline.now := Nat.max_self _
  unfold passTo
  cases alarms : timeline.alarms with
  | nil => rw [passAlarms, moveTo, clock, ← alarms]
  | cons alarm rest =>
      have ahead := orderly.ahead alarm (by rw [alarms]; exact List.mem_cons_self)
      rw [passAlarms, if_neg (Nat.not_lt.mpr ahead), moveTo, clock, ← alarms]

end

/-- What brings about the end of a context at an instant: its deadline, or an alarm that cancels
its token or one above it. -/
def Brings (timeline : Timeline) (context : Context) (instant : Nat) : EndReason → Prop
  | .deadlineExceeded => context.deadline = some instant
  | .cancelled => ∃ alarm ∈ timeline.alarms, alarm.due = instant ∧
      (targetToken alarm.target).id ∈ context.token.id :: context.token.ancestors

variable {timeline : Timeline} {context : Context} {token : Token} {instant : Nat}

theorem alarm_instant_of_sorted {now : Nat} {alarms : List Alarm} (sorted : Sorted alarms)
    (ahead : ∀ alarm ∈ alarms, now ≤ alarm.due) :
    alarmInstant? token now alarms =
      (alarms.find? fun alarm => reaches token alarm.target).map Alarm.due := by
  induction alarms generalizing now with
  | nil => rfl
  | cons alarm rest ih =>
      obtain ⟨first, others⟩ := List.pairwise_cons.mp sorted
      have clock : max now alarm.due = alarm.due :=
        Nat.max_eq_right (ahead alarm List.mem_cons_self)
      rw [alarmInstant?, clock, List.find?_cons]
      cases hit : reaches token alarm.target with
      | true => rfl
      | false =>
          rw [if_neg Bool.false_ne_true]
          exact ih others first

/-- Behind the first alarm that reaches a token there is none that does so earlier. -/
theorem first_alarm_le {alarms : List Alarm} {alarm other : Alarm} (sorted : Sorted alarms)
    (first : alarms.find? (fun alarm => reaches token alarm.target) = some alarm)
    (member : other ∈ alarms) (hit : reaches token other.target = true) :
    alarm.due ≤ other.due := by
  obtain ⟨-, before, after, rfl, missed⟩ := List.find?_eq_some_iff_append.mp first
  obtain early | late := List.mem_append.mp member
  · have miss := missed other early
    rw [hit] at miss
    contradiction
  · obtain rfl | behind := List.mem_cons.mp late
    · exact Nat.le_refl _
    · exact (List.pairwise_cons.mp (List.pairwise_append.mp sorted).2.1).1 other behind

theorem cancel_instant_of_live (orderly : timeline.Orderly)
    (live : timeline.isTokenCancelled token = false) :
    cancelInstant? token timeline.alarms timeline =
      (timeline.alarms.find? fun alarm => reaches token alarm.target).map Alarm.due := by
  rw [cancelInstant?, live, if_neg Bool.false_ne_true,
    alarm_instant_of_sorted orderly.sorted orderly.ahead]

theorem end_instant_of_live (orderly : timeline.Orderly)
    (live : timeline.fired? context = none) :
    timeline.endInstant? context =
      Option.merge min context.deadline
        ((timeline.alarms.find? fun alarm => reaches context.token alarm.target).map
          Alarm.due) := by
  obtain ⟨notPast, uncancelled⟩ := (fired_eq_none_iff _ _).mp live
  have bound : context.deadline.map (max timeline.now) = context.deadline := by
    apply map_max_of_ge
    intro deadline bounded
    rw [Bool.eq_false_iff, Ne, is_past_iff] at notPast
    exact Nat.le_of_not_le fun past => notPast ⟨deadline, bounded, past⟩
  rw [endInstant?, bound, cancel_instant_of_live orderly uncancelled]

theorem brings_cancelled_iff : timeline.Brings context instant .cancelled ↔
    ∃ alarm ∈ timeline.alarms, alarm.due = instant ∧
      reaches context.token alarm.target = true := by
  simp only [Brings, reaches, List.contains_iff_mem]

/-- The first alarm that reaches a token stands for all that do. -/
theorem first_alarm_brings (orderly : timeline.Orderly) {alarm : Alarm}
    (first : timeline.alarms.find? (fun alarm => reaches context.token alarm.target) = some alarm) :
    timeline.Brings context alarm.due .cancelled ∧
      ∀ other, timeline.Brings context other .cancelled → alarm.due ≤ other := by
  constructor
  · have hit := List.find?_some first
    exact brings_cancelled_iff.mpr ⟨alarm, List.mem_of_find?_eq_some first, rfl, hit⟩
  · intro other brings
    obtain ⟨later, member, rfl, hit⟩ := brings_cancelled_iff.mp brings
    exact first_alarm_le orderly.sorted first member hit

theorem no_alarm_brings
    (none_left : timeline.alarms.find? (fun alarm => reaches context.token alarm.target) = none)
    (other : Nat) : ¬ timeline.Brings context other .cancelled := by
  intro brings
  obtain ⟨alarm, member, -, hit⟩ := brings_cancelled_iff.mp brings
  exact List.find?_eq_none.mp none_left alarm member hit

/-- A context that has not ended ends at the earliest instant that something is set for. -/
theorem end_instant_least (orderly : timeline.Orderly) (live : timeline.fired? context = none)
    (ends : timeline.endInstant? context = some instant) :
    (∃ reason, timeline.Brings context instant reason) ∧
      ∀ other cause, timeline.Brings context other cause → instant ≤ other := by
  rw [end_instant_of_live orderly live] at ends
  cases bound : context.deadline with
  | none =>
      cases first : timeline.alarms.find? fun alarm => reaches context.token alarm.target with
      | none =>
          rw [bound, first] at ends
          contradiction
      | some alarm =>
          rw [bound, first, Option.map_some, Option.merge_none_left] at ends
          obtain rfl := Option.some.inj ends
          obtain ⟨brings, least⟩ := first_alarm_brings orderly first
          refine ⟨⟨.cancelled, brings⟩, ?_⟩
          rintro other (_ | _) set
          · exact least other set
          · exact absurd (bound.symm.trans set) (by simp)
  | some deadline =>
      have late : timeline.Brings context deadline .deadlineExceeded := bound
      have only (other : Nat) (set : timeline.Brings context other .deadlineExceeded) :
          deadline = other := Option.some.inj (bound.symm.trans set)
      cases first : timeline.alarms.find? fun alarm => reaches context.token alarm.target with
      | none =>
          rw [bound, first, Option.map_none, Option.merge_none_right] at ends
          obtain rfl := Option.some.inj ends
          refine ⟨⟨.deadlineExceeded, late⟩, ?_⟩
          rintro other (_ | _) set
          · exact absurd set (no_alarm_brings first other)
          · exact Nat.le_of_eq (only other set)
      | some alarm =>
          rw [bound, first, Option.map_some, Option.merge_some_some] at ends
          obtain rfl := Option.some.inj ends
          obtain ⟨brings, least⟩ := first_alarm_brings orderly first
          constructor
          · rcases Nat.le_total deadline alarm.due with sooner | sooner
            · rw [Nat.min_eq_left sooner]
              exact ⟨.deadlineExceeded, late⟩
            · rw [Nat.min_eq_right sooner]
              exact ⟨.cancelled, brings⟩
          · rintro other (_ | _) set
            · have := least other set
              omega
            · have := only other set
              omega

/-- Where something is set for a context, it has an end to come. -/
theorem end_instant_of_brings (orderly : timeline.Orderly)
    (live : timeline.fired? context = none) {reason : EndReason}
    (brings : timeline.Brings context instant reason) :
    ∃ ended, timeline.endInstant? context = some ended := by
  rw [end_instant_of_live orderly live, ← Option.isSome_iff_exists]
  cases reason with
  | deadlineExceeded =>
      have bound : context.deadline = some instant := brings
      rw [bound]
      cases timeline.alarms.find? fun alarm => reaches context.token alarm.target <;> rfl
  | cancelled =>
      cases first : timeline.alarms.find? fun alarm => reaches context.token alarm.target with
      | none => exact absurd brings (no_alarm_brings first instant)
      | some alarm => cases context.deadline <;> rfl

/-- The first thing that is set for a context is its end. -/
theorem end_instant_of_first (orderly : timeline.Orderly)
    (live : timeline.fired? context = none) {reason : EndReason}
    (brings : timeline.Brings context instant reason)
    (first : ∀ other cause, timeline.Brings context other cause → instant ≤ other) :
    timeline.endInstant? context = some instant := by
  obtain ⟨ended, ends⟩ := end_instant_of_brings orderly live brings
  obtain ⟨⟨cause, set⟩, least⟩ := end_instant_least orderly live ends
  rw [ends, Nat.le_antisymm (least instant reason brings) (first ended cause set)]

/-- Before anything that is set for a live context, waiting is nothing but time passing. -/
theorem await_end_before {limit : Nat} (orderly : timeline.Orderly)
    (live : (timeline.observe context).1 = none) (forward : timeline.now ≤ limit)
    (late : ∀ instant cause, timeline.Brings context instant cause → limit < instant) :
    timeline.awaitEnd context limit = (none, timeline.passTo limit) := by
  have unfired := ((observe_eq_none_iff _ _).mp live).2
  have after (ended : Nat) (ends : timeline.endInstant? context = some ended) : limit < ended := by
    obtain ⟨⟨cause, set⟩, -⟩ := end_instant_least orderly unfired ends
    exact late ended cause set
  have still : ¬ ((timeline.passTo limit).fired? context).isSome := by
    obtain ahead | rfl := Nat.lt_or_eq_of_le forward
    · rw [fired_pass_to_iff context ahead fun ends => Nat.lt_irrefl limit (after limit ends)]
      rintro ⟨ended, ends, sooner⟩
      exact Nat.lt_asymm sooner (after ended ends)
    · rw [orderly.pass_to_now, unfired]
      exact Bool.false_ne_true
  apply await_end_of_not_ends
  rintro (ended | fired)
  · rw [live] at ended
    contradiction
  · exact still fired

/-- A token that is cancelled where a wait for a live context stops was cancelled by an alarm that
was due before. -/
theorem brings_of_await_end {limit : Nat} (orderly : timeline.Orderly)
    (live : (timeline.observe context).1 = none)
    (forward : timeline.now < lookout context limit)
    (cancelled : (timeline.awaitEnd context limit).2.isTokenCancelled context.token = true) :
    ∃ other, timeline.Brings context other .cancelled ∧ other < lookout context limit := by
  have unfired := ((observe_eq_none_iff _ _).mp live).2
  have uncancelled := ((fired_eq_none_iff _ _).mp unfired).2
  have stopped : (passUntilCancelled context.token (lookout context limit) timeline.alarms
      timeline).isTokenCancelled context.token = true := by
    rw [await_end_of_live live] at cancelled
    dsimp only at cancelled
    split at cancelled
    · rwa [isTokenCancelled, observe_cancelled] at cancelled
    · exact cancelled
  rw [pass_until_cancelled_is_token_cancelled, token_cancelled_by_iff _ _ forward,
    cancel_instant_of_live orderly uncancelled] at stopped
  obtain ⟨other, found, before⟩ := stopped
  obtain ⟨alarm, first, rfl⟩ := Option.map_eq_some_iff.mp found
  exact ⟨alarm.due, (first_alarm_brings orderly first).1, before⟩

end CertSteward.Timeline
