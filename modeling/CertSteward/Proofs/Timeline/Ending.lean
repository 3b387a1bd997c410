import CertSteward.Proofs.Timeline.Clock

/-!
# How a context ends

When a cause is to be seen, what a look reports then and afterwards, and what
waiting for the end of a context comes to: it is over at once if the context
has ended, it gives the reason that the context reports from then on if a
cause comes up by the limit, and it is nothing but time passing otherwise.
-/

namespace CertSteward.Timeline

set_option autoImplicit false

variable {timeline : Timeline} {context : Context} {reason : EndReason}

theorem is_past_iff (timeline : Timeline) (context : Context) :
    timeline.isPast context = true ↔
      ∃ deadline, context.deadline = some deadline ∧ deadline ≤ timeline.now := by
  unfold isPast
  cases context.deadline <;> simp

theorem stays_past {earlier later : Timeline} (forward : earlier.now ≤ later.now)
    (past : earlier.isPast context = true) : later.isPast context = true := by
  rw [is_past_iff] at past ⊢
  obtain ⟨deadline, bounded, reached⟩ := past
  exact ⟨deadline, bounded, Nat.le_trans reached forward⟩

theorem fired_eq_none_iff (timeline : Timeline) (context : Context) :
    timeline.fired? context = none ↔
      timeline.isPast context = false ∧ timeline.isTokenCancelled context.token = false := by
  unfold fired?
  cases timeline.isPast context <;>
    cases timeline.isTokenCancelled context.token <;> simp

theorem fired_is_some_eq (timeline : Timeline) (context : Context) :
    (timeline.fired? context).isSome =
      (timeline.isPast context || timeline.isTokenCancelled context.token) := by
  unfold fired?
  cases timeline.isPast context <;>
    cases timeline.isTokenCancelled context.token <;> rfl

/-- Whether a cause is there for a context, be it to be seen or hidden behind the other one. -/
def Shows (timeline : Timeline) (context : Context) : EndReason → Prop
  | .cancelled => timeline.isTokenCancelled context.token = true
  | .deadlineExceeded => timeline.isPast context = true

theorem stays_shown {earlier later : Timeline} (forward : earlier.now ≤ later.now)
    (grown : earlier.cancelled ⊆ later.cancelled) (shown : earlier.Shows context reason) :
    later.Shows context reason := by
  cases reason with
  | cancelled => exact token_stays_cancelled grown shown
  | deadlineExceeded => exact stays_past forward shown

theorem shows_of_fired (fired : timeline.fired? context = some reason) :
    timeline.Shows context reason := by
  unfold fired? at fired
  split at fired
  · rename_i past
    cases fired
    exact past
  · split at fired
    · rename_i cancelled
      cases fired
      exact cancelled
    · contradiction

theorem fired_of_shows (shown : timeline.Shows context reason) :
    timeline.fired? context ≠ none := by
  intro unfired
  rw [fired_eq_none_iff] at unfired
  cases reason with
  | cancelled => exact absurd (shown.symm.trans unfired.2) (by decide)
  | deadlineExceeded => exact absurd (shown.symm.trans unfired.1) (by decide)

/-- Causes depend on the clock and the cancelled tokens alone. -/
theorem fired_of_same {earlier later : Timeline} (now : later.now = earlier.now)
    (tokens : later.cancelled = earlier.cancelled) (context : Context) :
    later.fired? context = earlier.fired? context := by
  unfold fired? isPast isTokenCancelled
  rw [now, tokens]

theorem shows_of_same {earlier later : Timeline} (now : later.now = earlier.now)
    (tokens : later.cancelled = earlier.cancelled) (context : Context) (reason : EndReason) :
    later.Shows context reason ↔ earlier.Shows context reason := by
  cases reason with
  | cancelled => rw [Shows, Shows, isTokenCancelled, isTokenCancelled, tokens]
  | deadlineExceeded => rw [Shows, Shows, isPast, isPast, now]

theorem observe_eq_none_iff (timeline : Timeline) (context : Context) :
    (timeline.observe context).1 = none ↔
      timeline.recorded? context.record = none ∧ timeline.fired? context = none := by
  rw [observe_fst, Option.or_eq_none_iff]

theorem observe_of_live (live : (timeline.observe context).1 = none) :
    timeline.observe context = (none, timeline) := by
  have unchanged := observe_snd timeline context
  rw [live] at unchanged
  exact Prod.ext live unchanged

@[simp] theorem recorded_write_record (timeline : Timeline) (record other : Nat)
    (reason : EndReason) :
    (timeline.writeRecord record reason).recorded? other =
      if other = record then some ((timeline.recorded? record).getD reason)
      else timeline.recorded? other := by
  cases written : timeline.recorded? record with
  | some first =>
      simp only [writeRecord, written, Option.getD_some]
      split
      · rename_i same
        rw [same, written]
      · rfl
  | none =>
      simp only [writeRecord, written, Option.getD_none]
      by_cases same : other = record
      · simp [recorded?, same]
      · have different : (other == record) = false := beq_eq_false_iff_ne.2 same
        simp only [recorded?, List.lookup_cons, different, if_neg same]

theorem recorded_of_observe (reported : (timeline.observe context).1 = some reason) :
    (timeline.observe context).2.recorded? context.record = some reason := by
  rw [observe_snd, reported]
  simp only [recorded_write_record, if_pos]
  rw [observe_fst] at reported
  cases recorded : timeline.recorded? context.record with
  | some first => simpa [recorded] using reported
  | none => rfl

theorem recorded_observe_other (timeline : Timeline) (context : Context) {record : Nat}
    (other : record ≠ context.record) :
    (timeline.observe context).2.recorded? record = timeline.recorded? record := by
  rw [observe_snd]
  split
  · rw [recorded_write_record, if_neg other]
  · rfl

theorem observe_of_recorded (recorded : timeline.recorded? context.record = some reason) :
    (timeline.observe context).1 = some reason := by
  rw [observe_fst, recorded, Option.some_or]

theorem write_record_of_recorded {record : Nat} {first : EndReason}
    (recorded : timeline.recorded? record = some first) (reason : EndReason) :
    timeline.writeRecord record reason = timeline := by
  unfold writeRecord
  rw [recorded]

theorem write_record_cancel_token (timeline : Timeline) (token : Token) (record : Nat)
    (reason : EndReason) :
    (timeline.cancelToken token).writeRecord record reason =
      (timeline.writeRecord record reason).cancelToken token := by
  have same : (timeline.cancelToken token).recorded? record = timeline.recorded? record := rfl
  unfold writeRecord
  rw [same]
  split <;> rfl

/-- Once its token is cancelled, a context reports the reason that it had before, if any. -/
theorem observe_cancel_token (timeline : Timeline) (context : Context) :
    ((timeline.cancelToken context.token).observe context).1 =
      some ((timeline.observe context).1.getD .cancelled) := by
  have cancelled : (timeline.cancelToken context.token).isTokenCancelled context.token =
      true := by
    rw [is_token_cancelled_iff]
    exact ⟨context.token.id, List.mem_cons_self, List.mem_cons_self⟩
  have clock : (timeline.cancelToken context.token).isPast context =
      timeline.isPast context := rfl
  have records : (timeline.cancelToken context.token).recorded? context.record =
      timeline.recorded? context.record := rfl
  rw [observe_fst, observe_fst, records, fired?, fired?, clock, cancelled]
  cases timeline.recorded? context.record with
  | some reason => rfl
  | none =>
      cases timeline.isPast context with
      | true => rfl
      | false => cases timeline.isTokenCancelled context.token <;> rfl

/-- To cancel a context is to cancel its token and to look. -/
theorem cancel_eq_observe (timeline : Timeline) (context : Context) :
    timeline.cancel context = ((timeline.cancelToken context.token).observe context).2 := by
  rw [observe_snd, observe_cancel_token]
  cases look : (timeline.observe context).1 with
  | some reason =>
      have recorded := recorded_of_observe look
      simp only [cancel, write_record_of_recorded recorded, Option.getD_some]
      rw [write_record_cancel_token, observe_snd, look]
  | none =>
      simp only [cancel, observe_of_live look, Option.getD_none]
      rw [write_record_cancel_token]

section

variable (timeline : Timeline) (context : Context) (deadline : Nat)

@[simp] theorem with_deadline_token :
    (timeline.withDeadline context deadline).1.token = context.token := by
  unfold withDeadline
  dsimp only
  split <;> rfl

@[simp] theorem with_deadline_deadline :
    (timeline.withDeadline context deadline).1.deadline =
      Option.merge min context.deadline (some deadline) := by
  unfold withDeadline
  dsimp only
  cases context.deadline <;> split <;> rfl

@[simp] theorem with_deadline_record :
    (timeline.withDeadline context deadline).1.record = timeline.fresh := by
  unfold withDeadline
  dsimp only
  split <;> rfl

@[simp] theorem with_deadline_now :
    (timeline.withDeadline context deadline).2.now = timeline.now := by
  unfold withDeadline
  dsimp only
  split <;> simp

@[simp] theorem with_deadline_cancelled :
    (timeline.withDeadline context deadline).2.cancelled = timeline.cancelled := by
  unfold withDeadline
  dsimp only
  split <;> simp

@[simp] theorem with_deadline_fresh :
    (timeline.withDeadline context deadline).2.fresh = timeline.fresh + 1 := by
  unfold withDeadline
  dsimp only
  split <;> simp

@[simp] theorem with_deadline_alarms :
    (timeline.withDeadline context deadline).2.alarms = timeline.alarms := by
  unfold withDeadline
  dsimp only
  split <;> simp

/-- The record of a derived context starts out as that of its source; no other one changes. -/
theorem recorded_with_deadline (blank : timeline.recorded? timeline.fresh = none)
    (record : Nat) :
    (timeline.withDeadline context deadline).2.recorded? record =
      if record = timeline.fresh then timeline.recorded? context.record
      else timeline.recorded? record := by
  have untouched (other : Nat) : { timeline with fresh := timeline.fresh + 1 }.recorded? other =
      timeline.recorded? other := rfl
  unfold withDeadline
  dsimp only
  cases recorded : timeline.recorded? context.record with
  | some reason =>
      simp only [untouched, recorded, recorded_write_record, blank, Option.getD_none]
  | none =>
      simp only [untouched, recorded]
      split
      · rename_i same
        rw [same, blank]
      · rfl

theorem with_deadline_stays_past (past : timeline.isPast context = true) :
    (timeline.withDeadline context deadline).2.isPast
      (timeline.withDeadline context deadline).1 = true := by
  rw [is_past_iff] at past ⊢
  obtain ⟨earlier, bounded, reached⟩ := past
  refine ⟨min earlier deadline, ?_, ?_⟩
  · unfold withDeadline
    rw [bounded]
    dsimp only
    split <;> rfl
  · rw [with_deadline_now]
    omega

end

def EndsBy (timeline : Timeline) (context : Context) (instant : Nat) : Prop :=
  (timeline.observe context).1.isSome ∨ ((timeline.passTo instant).fired? context).isSome

instance (timeline : Timeline) (context : Context) (instant : Nat) :
    Decidable (timeline.EndsBy context instant) :=
  inferInstanceAs (Decidable (_ ∨ _))

def lookout (context : Context) (limit : Nat) : Nat :=
  match context.deadline with
  | some deadline => min deadline limit
  | none => limit

theorem await_end_of_ended (reported : (timeline.observe context).1 = some reason)
    (limit : Nat) :
    timeline.awaitEnd context limit = (some reason, (timeline.observe context).2) := by
  have look : timeline.observe context = (some reason, (timeline.observe context).2) :=
    Prod.ext reported rfl
  unfold awaitEnd
  rw [look]

theorem report_of_fired (fired : (timeline.fired? context).isSome) (fallback : EndReason) :
    (some ((timeline.observe context).1.getD fallback), (timeline.observe context).2) =
      timeline.observe context := by
  have reported : (timeline.observe context).1.isSome := by
    rw [observe_fst, Option.isSome_or, fired, Bool.or_true]
  obtain ⟨reason, look⟩ := Option.isSome_iff_exists.1 reported
  exact Prod.ext (by rw [look, Option.getD_some]) rfl

theorem await_end_of_live (live : (timeline.observe context).1 = none) (limit : Nat) :
    timeline.awaitEnd context limit =
      let waited := passUntilCancelled context.token (lookout context limit) timeline.alarms
        timeline
      if (waited.fired? context).isSome then waited.observe context else (none, waited) := by
  unfold awaitEnd lookout
  rw [observe_of_live live]
  cases context.deadline with
  | none =>
      simp only [← fired_is_some_eq]
      split
      · exact report_of_fired ‹_› _
      · rfl
  | some deadline =>
      simp only [← fired_is_some_eq]
      split
      · exact report_of_fired ‹_› _
      · rfl

theorem pass_to_cancelled_subset (timeline : Timeline) {first second : Nat}
    (later : first ≤ second) :
    (timeline.passTo first).cancelled ⊆ (timeline.passTo second).cancelled := by
  rw [← pass_to_pass_to timeline later]
  exact pass_alarms_cancelled_subset second _ _

theorem lookout_cases (context : Context) (limit : Nat) :
    lookout context limit = limit ∨
      context.deadline = some (lookout context limit) ∧ lookout context limit ≤ limit := by
  unfold lookout
  cases context.deadline with
  | none => exact Or.inl rfl
  | some deadline =>
      rcases Nat.le_total deadline limit with early | late
      · exact Or.inr ⟨congrArg some (Nat.min_eq_left early).symm, Nat.min_le_right _ _⟩
      · exact Or.inl (Nat.min_eq_right late)

theorem lookout_le (context : Context) (limit : Nat) : lookout context limit ≤ limit := by
  rcases lookout_cases context limit with same | ⟨_, early⟩
  · exact Nat.le_of_eq same
  · exact early

/-- Stopping at a cancellation or at the deadline misses no cause that comes up by the limit. -/
theorem fired_where_stopped_iff (timeline : Timeline) (context : Context) (limit : Nat) :
    ((passUntilCancelled context.token (lookout context limit) timeline.alarms
        timeline).fired? context).isSome ↔
      ((timeline.passTo limit).fired? context).isSome := by
  cases cancelled : (timeline.passTo (lookout context limit)).isTokenCancelled
      context.token with
  | true =>
      have stopped : (passUntilCancelled context.token (lookout context limit) timeline.alarms
          timeline).isTokenCancelled context.token = true := by
        rw [pass_until_cancelled_is_token_cancelled]
        exact cancelled
      have stays := token_stays_cancelled
        (pass_to_cancelled_subset timeline (lookout_le context limit)) cancelled
      simp only [fired_is_some_eq, stopped, stays, Bool.or_true]
  | false =>
      rw [pass_until_cancelled_of_live _ _ _ _ cancelled, ← passTo]
      rcases lookout_cases context limit with same | ⟨bounded, early⟩
      · rw [same]
      · have pastHere : (timeline.passTo (lookout context limit)).isPast context = true := by
          rw [is_past_iff]
          exact ⟨_, bounded, by rw [pass_to_now]; omega⟩
        have pastThere : (timeline.passTo limit).isPast context = true := by
          rw [is_past_iff]
          exact ⟨_, bounded, by rw [pass_to_now]; omega⟩
        simp only [fired_is_some_eq, pastHere, pastThere, Bool.true_or]

/-- A wait for the end of a context gives the reason that the context reports from then on. -/
theorem await_end_of_ends {limit : Nat} (ends : timeline.EndsBy context limit) :
    ∃ reason after, timeline.awaitEnd context limit = (some reason, after) ∧
      (after.observe context).1 = some reason := by
  cases look : (timeline.observe context).1 with
  | some reason =>
      exact ⟨reason, _, await_end_of_ended look limit,
        observe_of_recorded (recorded_of_observe look)⟩
  | none =>
      have fired : ((timeline.passTo limit).fired? context).isSome := by
        rcases ends with ended | fired
        · rw [look] at ended
          contradiction
        · exact fired
      rw [← fired_where_stopped_iff] at fired
      rw [await_end_of_live look]
      simp only [fired, if_true]
      have reported : ((passUntilCancelled context.token (lookout context limit)
          timeline.alarms timeline).observe context).1.isSome := by
        rw [observe_fst, Option.isSome_or, fired, Bool.or_true]
      obtain ⟨reason, seen⟩ := Option.isSome_iff_exists.1 reported
      exact ⟨reason, _, Prod.ext seen rfl, observe_of_recorded (recorded_of_observe seen)⟩

/-- Where no cause comes up by the limit, waiting is nothing but time passing. -/
theorem await_end_of_not_ends {limit : Nat} (goesOn : ¬ timeline.EndsBy context limit) :
    timeline.awaitEnd context limit = (none, timeline.passTo limit) := by
  unfold EndsBy at goesOn
  rw [not_or, Option.not_isSome_iff_eq_none, Option.not_isSome_iff_eq_none] at goesOn
  obtain ⟨live, unfired⟩ := goesOn
  have stopped : ((passUntilCancelled context.token (lookout context limit) timeline.alarms
      timeline).fired? context).isSome = false := by
    rw [Bool.eq_false_iff, ne_eq, fired_where_stopped_iff, unfired]
    simp
  have reached : lookout context limit = limit := by
    rcases lookout_cases context limit with same | ⟨bounded, early⟩
    · exact same
    · have notPast := ((fired_eq_none_iff _ _).1 unfired).1
      rw [Bool.eq_false_iff, ne_eq, is_past_iff] at notPast
      exact absurd ⟨_, bounded, by rw [pass_to_now]; omega⟩ notPast
  rw [await_end_of_live live]
  simp only [stopped, Bool.false_eq_true, if_false]
  rw [reached, pass_until_cancelled_of_live _ _ _ _ ((fired_eq_none_iff _ _).1 unfired).2]
  rfl

end CertSteward.Timeline
