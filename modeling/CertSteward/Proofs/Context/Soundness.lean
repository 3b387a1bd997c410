import CertSteward.Proofs.Context.Accounts

/-!
# Sound chronicles

A chronicle is sound if every context has one account and a record of its own,
and if every account fits the timeline. Each change keeps it so, and with the
changes the passing of time, which is nothing but a series of them.
-/

namespace CertSteward.Context

set_option autoImplicit false

namespace Account

variable {timeline : Timeline}

theorem from_token_fits (timeline : Timeline) (token : Token)
    (blank : timeline.recorded? timeline.fresh = none) :
    Account.Fits (timeline.fromToken token).2
      ⟨(timeline.fromToken token).1,
        if timeline.isTokenCancelled token then some .cancelled else none, false⟩ := by
  have same : (timeline.fromToken token).2.isTokenCancelled token =
      timeline.isTokenCancelled token := rfl
  have unwritten : (timeline.fromToken token).2.recorded? timeline.fresh = none := blank
  refine ⟨?_, ?_, ?_, ?_, ?_⟩
  · intro live
    rw [Timeline.fired_eq_none_iff]
    refine ⟨rfl, ?_⟩
    cases cancelled : timeline.isTokenCancelled token with
    | false => exact same.trans cancelled
    | true =>
        rw [cancelled] at live
        contradiction
  · intro reason ended
    dsimp only at ended
    split at ended
    · rename_i cancelled
      obtain rfl := Option.some.inj ended
      exact same.trans cancelled
    · contradiction
  · constructor
    · intro recorded
      exact absurd (unwritten.symm.trans recorded) (by decide)
    · intro noticed
      contradiction
  · intro recorded
    exact absurd (unwritten.symm.trans recorded) (by decide)
  · intro noticed
    contradiction

/-- What is there for a context is there for one that is made from it. -/
theorem shows_with_deadline {context : Context} {reason : EndReason}
    (shown : timeline.Shows context reason) (deadline : Nat) :
    (timeline.withDeadline context deadline).2.Shows
      (timeline.withDeadline context deadline).1 reason := by
  cases reason with
  | cancelled =>
      have cancelled : timeline.isTokenCancelled context.token = true := shown
      rw [Timeline.Shows, Timeline.isTokenCancelled, Timeline.with_deadline_token,
        Timeline.with_deadline_cancelled]
      exact cancelled
  | deadlineExceeded => exact Timeline.with_deadline_stays_past _ _ _ shown

theorem Fits.with_deadline {source : Account} (fits : source.Fits timeline) (deadline : Nat)
    (blank : timeline.recorded? timeline.fresh = none) :
    Account.Fits (timeline.withDeadline source.context deadline).2
      ⟨(timeline.withDeadline source.context deadline).1,
        source.cause.or
          (if (timeline.withDeadline source.context deadline).2.isPast
              (timeline.withDeadline source.context deadline).1 then
            some .deadlineExceeded else none),
        source.noticed⟩ := by
  have record : (timeline.withDeadline source.context deadline).2.recorded?
      (timeline.withDeadline source.context deadline).1.record =
        timeline.recorded? source.context.record := by
    rw [Timeline.recorded_with_deadline _ _ _ blank, Timeline.with_deadline_record, if_pos rfl]
  refine ⟨?_, ?_, ?_, ?_, ?_⟩
  · intro live
    obtain ⟨before, early⟩ := Option.or_eq_none_iff.1 live
    have token := ((Timeline.fired_eq_none_iff _ _).1 (fits.live before)).2
    rw [Timeline.fired_eq_none_iff]
    constructor
    · rw [← Bool.not_eq_true]
      intro past
      rw [if_pos past] at early
      contradiction
    · rw [Timeline.isTokenCancelled, Timeline.with_deadline_token,
        Timeline.with_deadline_cancelled]
      exact token
  · intro reason ended
    dsimp only at ended ⊢
    cases before : source.cause with
    | some first =>
        rw [before, Option.some_or] at ended
        obtain rfl := Option.some.inj ended
        exact shows_with_deadline (fits.shown first before) deadline
    | none =>
        rw [before, Option.none_or] at ended
        split at ended
        · rename_i past
          obtain rfl := Option.some.inj ended
          exact past
        · contradiction
  · dsimp only
    rw [record]
    exact fits.noticed
  · dsimp only
    rw [record]
    intro recorded
    exact shows_with_deadline (fits.late recorded) deadline
  · intro noticed
    dsimp only
    rw [fits.ofNoticed noticed, Option.some_or]

end Account

namespace Chronicle

variable {chronicle : Chronicle}

def KnowsTarget (chronicle : Chronicle) : AlarmTarget → Prop
  | .context context => context ∈ chronicle.contexts
  | .token _ => True

structure Sound (chronicle : Chronicle) : Prop where
  distinct : ∀ first ∈ chronicle.accounts, ∀ second ∈ chronicle.accounts,
    first.context.record = second.context.record → first = second
  used : ∀ account ∈ chronicle.accounts, account.context.record < chronicle.timeline.fresh
  blank : ∀ record, chronicle.timeline.fresh ≤ record →
    chronicle.timeline.recorded? record = none
  known : ∀ alarm ∈ chronicle.timeline.alarms, chronicle.KnowsTarget alarm.target
  fits : ∀ account ∈ chronicle.accounts, account.Fits chronicle.timeline

theorem knows_target_of_contexts {later : Chronicle} {target : AlarmTarget}
    (grown : chronicle.contexts ⊆ later.contexts) (known : chronicle.KnowsTarget target) :
    later.KnowsTarget target := by
  cases target with
  | context context => exact grown known
  | token token => trivial

theorem start_sound : start.Sound := by
  constructor
  case blank =>
    intro record fresh
    rfl
  all_goals
    intro first member
    exact absurd member (List.not_mem_nil)

namespace Sound

theorem account (sound : chronicle.Sound) {account : Account}
    (member : account ∈ chronicle.accounts) :
    chronicle.account? account.context = some account := by
  cases found : chronicle.account? account.context with
  | none =>
      have missing := List.find?_eq_none.1 found account member
      exact absurd rfl (of_decide_eq_false (Bool.eq_false_iff.2 missing))
  | some other =>
      have matched := List.find?_some found
      have same : other.context = account.context := of_decide_eq_true matched
      have listed := List.mem_of_find?_eq_some found
      rw [sound.distinct other listed account member (by rw [same])]

theorem of_contexts (sound : chronicle.Sound) {context : Context}
    (known : context ∈ chronicle.contexts) :
    ∃ account ∈ chronicle.accounts, account.context = context ∧
      chronicle.account? context = some account := by
  obtain ⟨account, member, rfl⟩ := List.mem_map.1 known
  exact ⟨account, member, rfl, sound.account member⟩

theorem context_eq_of_record (sound : chronicle.Sound) {context other : Context}
    (known : context ∈ chronicle.contexts) (listed : other ∈ chronicle.contexts)
    (same : context.record = other.record) : context = other := by
  obtain ⟨first, member, rfl⟩ := List.mem_map.1 known
  obtain ⟨second, also, rfl⟩ := List.mem_map.1 listed
  rw [sound.distinct first member second also same]

theorem change (sound : chronicle.Sound) {later : Timeline} {enter : Account → Account}
    (kept : ∀ account, (enter account).context = account.context)
    (fresh : later.fresh = chronicle.timeline.fresh)
    (alarms : later.alarms = chronicle.timeline.alarms)
    (blank : ∀ record, chronicle.timeline.fresh ≤ record → later.recorded? record = none)
    (fits : ∀ account ∈ chronicle.accounts, (enter account).Fits later) :
    Sound ⟨later, chronicle.accounts.map enter⟩ := by
  refine ⟨?_, ?_, ?_, ?_, ?_⟩
  · intro first firstMember second secondMember same
    obtain ⟨earlier, member, rfl⟩ := List.mem_map.1 firstMember
    obtain ⟨other, otherMember, rfl⟩ := List.mem_map.1 secondMember
    rw [kept, kept] at same
    rw [sound.distinct earlier member other otherMember same]
  · intro account member
    obtain ⟨earlier, listed, rfl⟩ := List.mem_map.1 member
    dsimp only
    rw [kept, fresh]
    exact sound.used earlier listed
  · intro record unused
    dsimp only at unused
    rw [fresh] at unused
    exact blank record unused
  · intro alarm member
    dsimp only at member
    rw [alarms] at member
    refine knows_target_of_contexts ?_ (sound.known alarm member)
    rw [contexts_map kept]
    exact List.Subset.refl _
  · intro account member
    obtain ⟨earlier, listed, rfl⟩ := List.mem_map.1 member
    exact fits earlier listed

theorem cancel_token (sound : chronicle.Sound) (token : Token) :
    (chronicle.cancelToken token).Sound := by
  refine sound.change (fun _ => Account.enter_context _ _ _) rfl rfl sound.blank ?_
  intro account member
  exact (sound.fits account member).cancel_token token

theorem move_to (sound : chronicle.Sound) (instant : Nat) :
    (chronicle.moveTo instant).Sound := by
  refine sound.change (fun _ => Account.enter_context _ _ _) rfl rfl sound.blank ?_
  intro account member
  exact (sound.fits account member).move_to instant

theorem look (sound : chronicle.Sound) {context : Context}
    (known : context ∈ chronicle.contexts) : (chronicle.look context).Sound := by
  obtain ⟨own, listed, rfl, _⟩ := sound.of_contexts known
  refine sound.change (fun _ => Account.look_context _ _ _) (Timeline.observe_fresh _ _)
    (Timeline.observe_alarms _ _) ?_ ?_
  · intro record unused
    have other : record ≠ own.context.record := by
      have used := sound.used own listed
      omega
    rw [Timeline.recorded_observe_other _ _ other]
    exact sound.blank record unused
  · intro account member
    apply (sound.fits account member).look own.context
    intro same
    rw [sound.distinct account member own listed same]

theorem cancel (sound : chronicle.Sound) {context : Context}
    (known : context ∈ chronicle.contexts) : (chronicle.cancel context).Sound := by
  apply (sound.cancel_token context.token).look
  rw [contexts_cancel_token]
  exact known

theorem fire (sound : chronicle.Sound) {target : AlarmTarget}
    (known : chronicle.KnowsTarget target) : (chronicle.fire target).Sound := by
  cases target with
  | context context => exact sound.cancel known
  | token token => exact sound.cancel_token token

theorem with_alarms (sound : chronicle.Sound) {alarms : List Alarm}
    (known : ∀ alarm ∈ alarms, chronicle.KnowsTarget alarm.target) :
    (chronicle.withAlarms alarms).Sound := by
  refine ⟨sound.distinct, sound.used, sound.blank, known, ?_⟩
  intro account member
  exact (sound.fits account member).of_same rfl rfl rfl

theorem alarm (sound : chronicle.Sound) {alarm : Alarm}
    (known : chronicle.KnowsTarget alarm.target) :
    ((chronicle.moveTo alarm.due).fire alarm.target).Sound := by
  refine (sound.move_to alarm.due).fire (knows_target_of_contexts ?_ known)
  rw [contexts_move_to]
  exact List.Subset.refl _

theorem known_after_alarm {rest : List Alarm} {instant : Nat} {target : AlarmTarget}
    (known : ∀ alarm ∈ rest, chronicle.KnowsTarget alarm.target) :
    ∀ alarm ∈ rest, ((chronicle.moveTo instant).fire target).KnowsTarget alarm.target := by
  intro alarm member
  refine knows_target_of_contexts ?_ (known alarm member)
  rw [contexts_fire, contexts_move_to]
  exact List.Subset.refl _

theorem pass_alarms (instant : Nat) {alarms : List Alarm} (sound : chronicle.Sound)
    (known : ∀ alarm ∈ alarms, chronicle.KnowsTarget alarm.target) :
    (passAlarms instant alarms chronicle).Sound := by
  induction alarms generalizing chronicle with
  | nil => exact (sound.with_alarms known).move_to instant
  | cons alarm rest ih =>
      obtain ⟨first, others⟩ := List.forall_mem_cons.1 known
      unfold passAlarms
      split
      · exact ih (sound.alarm first) (known_after_alarm others)
      · exact (sound.with_alarms known).move_to instant

theorem pass (sound : chronicle.Sound) (milliseconds : Nat) :
    (chronicle.pass milliseconds).Sound :=
  pass_alarms _ sound sound.known

theorem pass_until_cancelled (token : Token) (instant : Nat) {alarms : List Alarm}
    (sound : chronicle.Sound)
    (known : ∀ alarm ∈ alarms, chronicle.KnowsTarget alarm.target) :
    (passUntilCancelled token instant alarms chronicle).Sound := by
  induction alarms generalizing chronicle with
  | nil => exact (sound.with_alarms known).move_to instant
  | cons alarm rest ih =>
      obtain ⟨first, others⟩ := List.forall_mem_cons.1 known
      simp only [passUntilCancelled]
      split
      · split
        · exact (sound.alarm first).with_alarms (known_after_alarm others)
        · exact ih (sound.alarm first) (known_after_alarm others)
      · exact (sound.with_alarms known).move_to instant

theorem waited (sound : chronicle.Sound) (context : Context) (limit : Nat) :
    (chronicle.waited context limit).Sound :=
  pass_until_cancelled _ _ sound sound.known

theorem await_end (sound : chronicle.Sound) {context : Context}
    (known : context ∈ chronicle.contexts) (limit : Nat) :
    (chronicle.awaitEnd context limit).Sound := by
  have stopped := sound.waited context limit
  simp only [awaitEnd]
  split
  · exact sound.look known
  · split
    · apply stopped.look
      rw [contexts_waited]
      exact known
    · exact stopped

theorem schedule (sound : chronicle.Sound) (delay : Nat) {target : AlarmTarget}
    (known : chronicle.KnowsTarget target) : (chronicle.schedule delay target).Sound := by
  apply sound.with_alarms
  intro alarm member
  rcases Timeline.mem_insert_alarm member with rfl | earlier
  · exact known
  · exact sound.known alarm earlier

theorem add (sound : chronicle.Sound) {made : Context × Timeline} {cause : Option EndReason}
    {noticed : Bool} (record : made.1.record = chronicle.timeline.fresh)
    (now : made.2.now = chronicle.timeline.now)
    (tokens : made.2.cancelled = chronicle.timeline.cancelled)
    (fresh : made.2.fresh = chronicle.timeline.fresh + 1)
    (alarms : made.2.alarms = chronicle.timeline.alarms)
    (others : ∀ other, other ≠ chronicle.timeline.fresh →
      made.2.recorded? other = chronicle.timeline.recorded? other)
    (fits : Account.Fits made.2 ⟨made.1, cause, noticed⟩) :
    (chronicle.add made cause noticed).Sound := by
  refine ⟨?_, ?_, ?_, ?_, ?_⟩
  · -- A record that was in use before is not the one of the new context.
    intro first firstMember second secondMember same
    rcases List.mem_cons.1 firstMember with rfl | firstListed <;>
      rcases List.mem_cons.1 secondMember with rfl | secondListed
    · rfl
    · have used := sound.used second secondListed
      rw [← same, record] at used
      omega
    · have used := sound.used first firstListed
      rw [same, record] at used
      omega
    · exact sound.distinct first firstListed second secondListed same
  · intro account member
    rcases List.mem_cons.1 member with rfl | listed
    · rw [Chronicle.add, record, fresh]
      omega
    · have used := sound.used account listed
      rw [Chronicle.add, fresh]
      omega
  · intro other unused
    rw [Chronicle.add, fresh] at unused
    rw [Chronicle.add, others other (by omega)]
    exact sound.blank other (by omega)
  · intro alarm member
    rw [Chronicle.add, alarms] at member
    exact knows_target_of_contexts (List.subset_cons_self _ _) (sound.known alarm member)
  · intro account member
    rcases List.mem_cons.1 member with rfl | listed
    · exact fits
    · refine (sound.fits account listed).of_same now tokens (others _ ?_)
      have used := sound.used account listed
      omega

theorem from_token (sound : chronicle.Sound) (token : Token) :
    (chronicle.fromToken token).Sound := by
  apply sound.add rfl rfl rfl rfl rfl (fun _ _ => rfl)
  exact Account.from_token_fits _ _ (sound.blank _ (Nat.le_refl _))

/-- Numbers that are given to tokens are lost to records. -/
theorem new_token (sound : chronicle.Sound) {later : Timeline}
    (made : later = { chronicle.timeline with fresh := chronicle.timeline.fresh + 1 }) :
    Sound ⟨later, chronicle.accounts⟩ := by
  rw [made]
  refine ⟨sound.distinct, ?_, ?_, sound.known, ?_⟩
  · intro account member
    exact Nat.lt_succ_of_lt (sound.used account member)
  · intro record unused
    exact sound.blank record (Nat.le_of_succ_le unused)
  · intro account member
    exact (sound.fits account member).of_same rfl rfl rfl

theorem new_context (sound : chronicle.Sound) : chronicle.newContext.Sound :=
  from_token (sound.new_token rfl) _

theorem with_deadline (sound : chronicle.Sound) {context : Context}
    (known : context ∈ chronicle.contexts) (deadline : Nat) :
    (chronicle.withDeadline context deadline).Sound := by
  obtain ⟨source, listed, rfl, found⟩ := sound.of_contexts known
  have blank := sound.blank _ (Nat.le_refl _)
  have fits := (sound.fits source listed).with_deadline deadline blank
  rw [Chronicle.withDeadline, Chronicle.cause?, found]
  refine sound.add (Timeline.with_deadline_record _ _ _) (Timeline.with_deadline_now _ _ _)
    (Timeline.with_deadline_cancelled _ _ _) (Timeline.with_deadline_fresh _ _ _)
    (Timeline.with_deadline_alarms _ _ _) ?_ fits
  intro other unequal
  rw [Timeline.recorded_with_deadline _ _ _ blank, if_neg unequal]

end Sound

end Chronicle

end CertSteward.Context
