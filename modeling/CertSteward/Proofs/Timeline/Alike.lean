import CertSteward.Proofs.Timeline.Ending
import Mathlib.Data.List.Forall2

/-!
# Timelines that differ in some records

Two timelines may differ in what is written to some records, and in alarms that
act on a context of these records here and on its token alone there. Whatever
is done on both keeps them so, and what is done to the contexts of these
records on one of them is to be seen on the other one by the tokens only.
-/

namespace CertSteward.Timeline

set_option autoImplicit false

inductive AlarmAlike (apart : List Nat) : Alarm → Alarm → Prop where
  | same (alarm : Alarm) : AlarmAlike apart alarm alarm
  | token {context : Context} (due : Nat) (derived : context.record ∈ apart) :
      AlarmAlike apart ⟨due, .context context⟩ ⟨due, .token context.token⟩

/-- Whether a timeline is another one but for some records. -/
structure AlikeBut (apart : List Nat) (full bare : Timeline) : Prop where
  now : bare.now = full.now
  fresh : bare.fresh = full.fresh
  cancelled : bare.cancelled = full.cancelled
  recorded : ∀ record, record ∉ apart → bare.recorded? record = full.recorded? record
  alarms : List.Forall₂ (AlarmAlike apart) full.alarms bare.alarms

theorem AlarmAlike.due {apart : List Nat} {alarm other : Alarm}
    (alike : AlarmAlike apart alarm other) : other.due = alarm.due := by
  cases alike <;> rfl

structure Rewritten (apart : List Nat) (timeline later : Timeline) : Prop where
  now : later.now = timeline.now
  fresh : later.fresh = timeline.fresh
  cancelled : later.cancelled = timeline.cancelled
  alarms : later.alarms = timeline.alarms
  recorded : ∀ record, record ∉ apart → later.recorded? record = timeline.recorded? record

theorem Rewritten.refl (apart : List Nat) (timeline : Timeline) :
    timeline.Rewritten apart timeline :=
  ⟨rfl, rfl, rfl, rfl, fun _ _ => rfl⟩

theorem write_record_rewritten {apart : List Nat} (timeline : Timeline) {record : Nat}
    (derived : record ∈ apart) (reason : EndReason) :
    timeline.Rewritten apart (timeline.writeRecord record reason) := by
  refine ⟨write_record_now _ _ _, write_record_fresh _ _ _, write_record_cancelled _ _ _,
    write_record_alarms _ _ _, ?_⟩
  intro other outside
  have different : other ≠ record := fun same => outside (by rwa [same])
  rw [recorded_write_record, if_neg different]

theorem observe_rewritten {apart : List Nat} (timeline : Timeline) {context : Context}
    (derived : context.record ∈ apart) :
    timeline.Rewritten apart (timeline.observe context).2 := by
  rw [observe_snd]
  split
  · exact timeline.write_record_rewritten derived _
  · exact Rewritten.refl apart timeline

def awaitCause (timeline : Timeline) (context : Context) (limit : Nat) : Timeline :=
  if (timeline.fired? context).isSome then timeline
  else passUntilCancelled context.token (lookout context limit) timeline.alarms timeline

namespace AlikeBut

variable {apart : List Nat} {full bare : Timeline}

theorem refl (apart : List Nat) (timeline : Timeline) : AlikeBut apart timeline timeline :=
  ⟨rfl, rfl, rfl, fun _ _ => rfl, List.forall₂_same.mpr fun alarm _ => .same alarm⟩

theorem more (alike : AlikeBut apart full bare) (record : Nat) :
    AlikeBut (record :: apart) full bare where
  now := alike.now
  fresh := alike.fresh
  cancelled := alike.cancelled
  recorded := fun other outside =>
    alike.recorded other fun member => outside (List.mem_cons_of_mem record member)
  alarms := by
    apply alike.alarms.imp
    intro alarm other related
    cases related with
    | same => exact .same alarm
    | token due derived => exact .token due (List.mem_cons_of_mem record derived)

theorem is_token_cancelled (alike : AlikeBut apart full bare) (token : Token) :
    bare.isTokenCancelled token = full.isTokenCancelled token := by
  rw [isTokenCancelled, isTokenCancelled, alike.cancelled]

theorem fired (alike : AlikeBut apart full bare) (context : Context) :
    bare.fired? context = full.fired? context :=
  fired_of_same alike.now alike.cancelled context

theorem observe_fst (alike : AlikeBut apart full bare) {context : Context}
    (outside : context.record ∉ apart) :
    (bare.observe context).1 = (full.observe context).1 := by
  rw [Timeline.observe_fst, Timeline.observe_fst, alike.recorded _ outside, alike.fired]

theorem move_to (alike : AlikeBut apart full bare) (instant : Nat) :
    AlikeBut apart (full.moveTo instant) (bare.moveTo instant) :=
  ⟨by rw [move_to_now, move_to_now, alike.now], alike.fresh, alike.cancelled, alike.recorded,
    alike.alarms⟩

theorem with_alarms (alike : AlikeBut apart full bare) {alarms others : List Alarm}
    (related : List.Forall₂ (AlarmAlike apart) alarms others) :
    AlikeBut apart { full with alarms := alarms } { bare with alarms := others } :=
  ⟨alike.now, alike.fresh, alike.cancelled, alike.recorded, related⟩

theorem numbered (alike : AlikeBut apart full bare) :
    AlikeBut apart { full with fresh := full.fresh + 1 } { bare with fresh := bare.fresh + 1 } :=
  ⟨alike.now, congrArg (· + 1) alike.fresh, alike.cancelled, alike.recorded, alike.alarms⟩

theorem cancel_token (alike : AlikeBut apart full bare) (token : Token) :
    AlikeBut apart (full.cancelToken token) (bare.cancelToken token) :=
  ⟨alike.now, alike.fresh, congrArg (token.id :: ·) alike.cancelled, alike.recorded,
    alike.alarms⟩

/-- Nothing else changes where something is written to a record apart. -/
theorem rewrite (alike : AlikeBut apart full bare) {later other : Timeline}
    (first : full.Rewritten apart later) (second : bare.Rewritten apart other) :
    AlikeBut apart later other where
  now := by rw [first.now, second.now, alike.now]
  fresh := by rw [first.fresh, second.fresh, alike.fresh]
  cancelled := by rw [first.cancelled, second.cancelled, alike.cancelled]
  recorded := fun record outside => by
    rw [first.recorded record outside, second.recorded record outside,
      alike.recorded record outside]
  alarms := by
    rw [first.alarms, second.alarms]
    exact alike.alarms

theorem write_record (alike : AlikeBut apart full bare) (record : Nat) (reason : EndReason) :
    AlikeBut apart (full.writeRecord record reason) (bare.writeRecord record reason) := by
  refine ⟨?_, ?_, ?_, ?_, ?_⟩
  · rw [write_record_now, write_record_now, alike.now]
  · rw [write_record_fresh, write_record_fresh, alike.fresh]
  · rw [write_record_cancelled, write_record_cancelled, alike.cancelled]
  · intro other outside
    rw [recorded_write_record, recorded_write_record, alike.recorded other outside]
    split
    · rename_i same
      rw [← same, alike.recorded other outside]
    · rfl
  · rw [write_record_alarms, write_record_alarms]
    exact alike.alarms

theorem observe (alike : AlikeBut apart full bare) (context : Context) :
    AlikeBut apart (full.observe context).2 (bare.observe context).2 := by
  by_cases derived : context.record ∈ apart
  · exact alike.rewrite (full.observe_rewritten derived) (bare.observe_rewritten derived)
  · rw [observe_snd, observe_snd, alike.observe_fst derived]
    split
    · exact alike.write_record _ _
    · exact alike

theorem observe_apart (alike : AlikeBut apart full bare) {context : Context}
    (derived : context.record ∈ apart) : AlikeBut apart (full.observe context).2 bare :=
  alike.rewrite (full.observe_rewritten derived) (Rewritten.refl apart bare)

theorem cancel (alike : AlikeBut apart full bare) (context : Context) :
    AlikeBut apart (full.cancel context) (bare.cancel context) := by
  rw [cancel_eq_observe, cancel_eq_observe]
  exact (alike.cancel_token context.token).observe context

/-- To cancel a context apart is to cancel its token. -/
theorem cancel_apart (alike : AlikeBut apart full bare) {context : Context}
    (derived : context.record ∈ apart) :
    AlikeBut apart (full.cancel context) (bare.cancelToken context.token) := by
  rw [cancel_eq_observe]
  exact (alike.cancel_token context.token).observe_apart derived

theorem alarm (alike : AlikeBut apart full bare) {alarm other : Alarm}
    (related : AlarmAlike apart alarm other) :
    AlikeBut apart ((full.moveTo alarm.due).fire alarm.target)
      ((bare.moveTo other.due).fire other.target) := by
  cases related with
  | token due derived => exact (alike.move_to due).cancel_apart derived
  | same =>
      have moved := alike.move_to alarm.due
      cases alarm.target with
      | context context => exact moved.cancel context
      | token token => exact moved.cancel_token token

theorem pass_alarms {alarms others : List Alarm}
    (related : List.Forall₂ (AlarmAlike apart) alarms others) (instant : Nat) :
    ∀ {full bare : Timeline}, AlikeBut apart full bare →
      AlikeBut apart (passAlarms instant alarms full) (passAlarms instant others bare) := by
  induction related with
  | nil => exact fun alike => (alike.with_alarms .nil).move_to instant
  | @cons alarm other rest behind first later ih =>
      intro full bare alike
      by_cases due : alarm.due < instant
      · rw [passAlarms, passAlarms, if_pos due, if_pos (by rwa [first.due])]
        exact ih (alike.alarm first)
      · rw [passAlarms, passAlarms, if_neg due, if_neg (by rwa [first.due])]
        exact (alike.with_alarms (.cons first later)).move_to instant

theorem pass (alike : AlikeBut apart full bare) (milliseconds : Nat) :
    AlikeBut apart (full.pass milliseconds) (bare.pass milliseconds) := by
  rw [Timeline.pass, Timeline.pass, alike.now]
  exact pass_alarms alike.alarms _ alike

theorem pass_until_cancelled {alarms others : List Alarm}
    (related : List.Forall₂ (AlarmAlike apart) alarms others) (token : Token) (instant : Nat) :
    ∀ {full bare : Timeline}, AlikeBut apart full bare →
      AlikeBut apart (passUntilCancelled token instant alarms full)
        (passUntilCancelled token instant others bare) := by
  induction related with
  | nil => exact fun alike => (alike.with_alarms .nil).move_to instant
  | @cons alarm other rest behind first later ih =>
      intro full bare alike
      have fired := alike.alarm first
      by_cases due : alarm.due < instant
      · have dueToo : other.due < instant := by rwa [first.due]
        simp only [passUntilCancelled, if_pos due, if_pos dueToo, fired.is_token_cancelled]
        split
        · exact fired.with_alarms later
        · exact ih fired
      · have lateToo : ¬ other.due < instant := by rwa [first.due]
        simp only [passUntilCancelled, if_neg due, if_neg lateToo]
        exact (alike.with_alarms (.cons first later)).move_to instant

theorem insert_alarm {alarm other : Alarm} (first : AlarmAlike apart alarm other)
    {alarms others : List Alarm} (related : List.Forall₂ (AlarmAlike apart) alarms others) :
    List.Forall₂ (AlarmAlike apart) (insertAlarm alarm alarms) (insertAlarm other others) := by
  induction related with
  | nil => exact .cons first .nil
  | cons head rest ih =>
      rw [insertAlarm, insertAlarm, first.due, head.due]
      split
      · exact .cons first (.cons head rest)
      · exact .cons head ih

theorem schedule (alike : AlikeBut apart full bare) (delay : Nat) (target : AlarmTarget) :
    AlikeBut apart (full.schedule delay target) (bare.schedule delay target) := by
  apply alike.with_alarms
  rw [alike.now]
  exact insert_alarm (.same _) alike.alarms

theorem schedule_apart (alike : AlikeBut apart full bare) (delay : Nat) {context : Context}
    (derived : context.record ∈ apart) :
    AlikeBut apart (full.schedule delay (.context context))
      (bare.schedule delay (.token context.token)) := by
  apply alike.with_alarms
  rw [alike.now]
  exact insert_alarm (.token _ derived) alike.alarms

theorem await_end (alike : AlikeBut apart full bare) {context : Context}
    (outside : context.record ∉ apart) (limit : Nat) :
    (bare.awaitEnd context limit).1 = (full.awaitEnd context limit).1 ∧
      AlikeBut apart (full.awaitEnd context limit).2 (bare.awaitEnd context limit).2 := by
  have same := alike.observe_fst outside
  cases seen : (full.observe context).1 with
  | some reason =>
      rw [await_end_of_ended seen, await_end_of_ended (same.trans seen)]
      exact ⟨rfl, alike.observe context⟩
  | none =>
      have stopped := pass_until_cancelled alike.alarms context.token (lookout context limit) alike
      rw [await_end_of_live seen, await_end_of_live (same.trans seen)]
      simp only [stopped.fired]
      split
      · exact ⟨stopped.observe_fst outside, stopped.observe context⟩
      · exact ⟨rfl, stopped⟩

/-- Who waits for a context apart, with nothing recorded in it that is not to be seen, waits for
the token and the clock. -/
theorem await_end_apart (alike : AlikeBut apart full bare) {context : Context}
    (derived : context.record ∈ apart)
    (blank : (full.observe context).1 = none ↔ full.fired? context = none) (limit : Nat) :
    AlikeBut apart (full.awaitEnd context limit).2 (bare.awaitCause context limit) := by
  unfold awaitCause
  rw [alike.fired]
  cases seen : (full.observe context).1 with
  | some reason =>
      have fired : (full.fired? context).isSome := by
        rw [Option.isSome_iff_ne_none, Ne, ← blank, seen]
        exact Option.some_ne_none reason
      rw [await_end_of_ended seen, if_pos fired]
      exact alike.observe_apart derived
  | none =>
      have stopped := pass_until_cancelled alike.alarms context.token (lookout context limit) alike
      have unfired : ¬ (full.fired? context).isSome = true := by simp [blank.mp seen]
      rw [await_end_of_live seen, if_neg unfired]
      dsimp only
      split
      · exact stopped.observe_apart derived
      · exact stopped

theorem new_token (alike : AlikeBut apart full bare) :
    bare.newToken.1 = full.newToken.1 ∧ AlikeBut apart full.newToken.2 bare.newToken.2 :=
  ⟨by rw [newToken, newToken, alike.fresh], alike.numbered⟩

theorem child_token (alike : AlikeBut apart full bare) (parent : Token) :
    (bare.childToken parent).1 = (full.childToken parent).1 ∧
      AlikeBut apart (full.childToken parent).2 (bare.childToken parent).2 :=
  ⟨by rw [childToken, childToken, alike.fresh], alike.numbered⟩

theorem from_token (alike : AlikeBut apart full bare) (token : Token) :
    (bare.fromToken token).1 = (full.fromToken token).1 ∧
      AlikeBut apart (full.fromToken token).2 (bare.fromToken token).2 :=
  ⟨by rw [fromToken, fromToken, alike.fresh], alike.numbered⟩

theorem new_context (alike : AlikeBut apart full bare) :
    bare.newContext.1 = full.newContext.1 ∧
      AlikeBut apart full.newContext.2 bare.newContext.2 := by
  obtain ⟨token, numbered⟩ := alike.new_token
  unfold newContext
  dsimp only
  rw [token]
  exact numbered.from_token _

/-- A context that is bounded from another one takes a number, and what it starts out with is
written to its own record. -/
theorem with_deadline_apart (alike : AlikeBut apart full bare) (context : Context)
    (deadline : Nat) :
    AlikeBut (full.fresh :: apart) (full.withDeadline context deadline).2
      { bare with fresh := bare.fresh + 1 } := by
  have numbered := alike.numbered.more full.fresh
  unfold withDeadline
  dsimp only
  split
  · exact numbered.rewrite (write_record_rewritten _ List.mem_cons_self _) (Rewritten.refl _ _)
  · exact numbered

theorem with_deadline (alike : AlikeBut apart full bare) {context : Context}
    (outside : context.record ∉ apart) (deadline : Nat) :
    (bare.withDeadline context deadline).1 = (full.withDeadline context deadline).1 ∧
      AlikeBut apart (full.withDeadline context deadline).2
        (bare.withDeadline context deadline).2 := by
  have numbered := alike.numbered
  rw [alike.fresh] at numbered
  have same := numbered.recorded _ outside
  unfold withDeadline
  dsimp only
  rw [alike.fresh, same]
  split
  · exact ⟨rfl, numbered.write_record _ _⟩
  · exact ⟨rfl, numbered⟩

end AlikeBut

end CertSteward.Timeline
