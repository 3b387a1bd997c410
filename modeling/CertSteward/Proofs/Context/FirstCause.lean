import CertSteward.Proofs.Context.Telling

/-!
# The first cause of an end

What a context reports after any run of steps, against the cause that ended it
first. The two are the same unless the deadline has overtaken a cancellation:
the token was cancelled first, and nobody looked at the context, nor at one
that it was made from, until the deadline had passed as well.
-/

namespace CertSteward.Context

set_option autoImplicit false

namespace Chronicle

variable {chronicle : Chronicle} {context : Context} {reason : EndReason} {limit : Nat}

/-- Whether the deadline of a context has passed behind an unnoticed cancellation. -/
def Overtaken (chronicle : Chronicle) (context : Context) : Prop :=
  ∃ account ∈ chronicle.accounts, account.context = context ∧
    account.Overtaken chronicle.timeline

instance (chronicle : Chronicle) (context : Context) : Decidable (chronicle.Overtaken context) :=
  inferInstanceAs (Decidable (∃ account ∈ chronicle.accounts, _ ∧ _))

namespace Sound

theorem overtaken_iff (sound : chronicle.Sound) {account : Account}
    (listed : account ∈ chronicle.accounts) :
    chronicle.Overtaken account.context ↔ account.Overtaken chronicle.timeline := by
  constructor
  · rintro ⟨other, member, same, overtaken⟩
    have own := sound.distinct other member account listed (by rw [same])
    rw [own] at overtaken
    exact overtaken
  · intro overtaken
    exact ⟨account, listed, rfl, overtaken⟩

/-- A look reports the first cause, unless the deadline has overtaken it. -/
theorem look_iff (sound : chronicle.Sound) (known : context ∈ chronicle.contexts)
    (reported : (chronicle.timeline.observe context).1 = some reason) :
    chronicle.cause? context = some reason ↔ ¬ chronicle.Overtaken context := by
  obtain ⟨account, listed, rfl, found⟩ := sound.of_contexts known
  rw [sound.overtaken_iff listed, cause?, found]
  exact (sound.fits account listed).report_iff reported

theorem cause_look (sound : chronicle.Sound) (known : context ∈ chronicle.contexts) :
    (chronicle.look context).cause? context = chronicle.cause? context := by
  obtain ⟨account, listed, rfl, found⟩ := sound.of_contexts known
  have looked := (sound.look known).account
    (List.mem_map_of_mem (f := Account.look chronicle.timeline account.context.record) listed)
  rw [Account.look_context] at looked
  rw [cause?, cause?, found, looked]
  exact Account.look_cause _ _ account

theorem not_overtaken_of_early (sound : chronicle.Sound)
    (known : context ∈ chronicle.contexts)
    (early : chronicle.timeline.isTokenCancelled context.token = true →
      chronicle.timeline.isPast context = false) : ¬ chronicle.Overtaken context := by
  obtain ⟨account, listed, rfl, _⟩ := sound.of_contexts known
  rw [sound.overtaken_iff listed]
  rintro ⟨cause, _, past⟩
  have cancelled := (sound.fits account listed).shown _ cause
  rw [early cancelled] at past
  contradiction

/-- Where a wait for the end of a live context stops, no cause hides another one. -/
theorem waited_not_overtaken (sound : chronicle.Sound) (known : context ∈ chronicle.contexts)
    (live : (chronicle.timeline.observe context).1 = none) (limit : Nat) :
    ¬ (chronicle.waited context limit).Overtaken context := by
  have stopped := sound.waited context limit
  refine stopped.not_overtaken_of_early ?_ ?_
  · rw [contexts_waited]
    exact known
  · rw [waited_timeline]
    -- The token is only ever cancelled by an alarm, and alarms that are taken come before the
    -- deadline.
    intro cancelled
    rw [← Bool.not_eq_true, Timeline.is_past_iff]
    rintro ⟨deadline, bounded, reached⟩
    obtain ⟨_, unfired⟩ := (Timeline.observe_eq_none_iff _ _).1 live
    obtain ⟨early, token⟩ := (Timeline.fired_eq_none_iff _ _).1 unfired
    have before : chronicle.timeline.now < deadline := by
      rw [← Bool.not_eq_true, Timeline.is_past_iff] at early
      exact Nat.lt_of_not_le fun past => early ⟨deadline, bounded, past⟩
    have lookout : Timeline.lookout context limit ≤ deadline := by
      unfold Timeline.lookout
      rw [bounded]
      exact Nat.min_le_left _ _
    have stop := Timeline.pass_until_cancelled_stops_before lookout context.token
      chronicle.timeline.alarms chronicle.timeline before token cancelled
    omega

/-- Waiting for the end reports the first cause, unless the deadline had overtaken it before. -/
theorem await_end_iff (sound : chronicle.Sound) (known : context ∈ chronicle.contexts)
    (reported : (chronicle.timeline.awaitEnd context limit).1 = some reason) :
    (chronicle.awaitEnd context limit).cause? context = some reason ↔
      ¬ chronicle.Overtaken context := by
  cases seen : (chronicle.timeline.observe context).1 with
  | some first =>
      rw [Timeline.await_end_of_ended seen] at reported
      obtain rfl := Option.some.inj reported
      have looked : chronicle.awaitEnd context limit = chronicle.look context := by
        simp [awaitEnd, seen]
      rw [looked, sound.cause_look known]
      exact sound.look_iff known seen
  | none =>
      have stopped := sound.waited context limit
      have still : context ∈ (chronicle.waited context limit).contexts := by
        rw [contexts_waited]
        exact known
      obtain ⟨_, unfired⟩ := (Timeline.observe_eq_none_iff _ _).1 seen
      have early := ((Timeline.fired_eq_none_iff _ _).1 unfired).1
      rw [Timeline.await_end_of_live seen] at reported
      simp only [← waited_timeline] at reported
      split at reported
      · rename_i fired
        have looked : chronicle.awaitEnd context limit =
            (chronicle.waited context limit).look context := by
          simp [awaitEnd, seen, fired]
        rw [looked, stopped.cause_look still, stopped.look_iff still reported]
        exact iff_of_true (sound.waited_not_overtaken known seen limit)
          (sound.not_overtaken_of_early known fun _ => early)
      · contradiction

end Sound

end Chronicle

def firstCause? (steps : List Step) (context : Context) : Option EndReason :=
  (tell steps).2.cause? context

/-- Whether the token of a context was cancelled first in a run of steps, and the deadline passed
before anybody looked. -/
def Overtaken (steps : List Step) (context : Context) : Prop :=
  (tell steps).2.Overtaken context

/-- After any run of steps, a context that reports a reason reports the cause that ended it
first, unless its deadline had overtaken an unnoticed cancellation by then. -/
theorem report_is_first_cause_unless_overtaken (steps : List Step) (name : String)
    {context : Context}
    (named : (Session.start.run steps).2.contexts.get? name = some context)
    (reason : EndReason) :
    (((Session.start.run steps).2.step (.error name)).1 = .reason (some reason) →
        (firstCause? steps context = some reason ↔ ¬ Overtaken steps context)) ∧
      ∀ limit waited,
        ((Session.start.run steps).2.step (.done name limit)).1 =
            .ended (some reason) waited →
          (firstCause? (steps ++ [.done name limit]) context = some reason ↔
            ¬ Overtaken steps context) := by
  rw [← tell_session] at named ⊢
  have told := told_tell steps
  have known := told.of_name named
  constructor
  · intro answer
    simp only [Session.step, Session.withContext, named] at answer
    have reported := Answer.reason.inj answer
    apply told.sound.look_iff known
    rw [told.timeline]
    exact reported
  · intro limit waited answer
    simp only [Session.step, Session.withContext, named] at answer
    have reported := (Answer.ended.inj answer).1
    rw [← told.timeline] at reported
    have after : (tell (steps ++ [.done name limit])).2 =
        (tell steps).2.awaitEnd context ((tell steps).2.timeline.now + limit) := by
      rw [tell_append]
      simp only [tellStep, Session.follow, Session.chronicleAtContext, named]
    rw [firstCause?, after]
    exact told.sound.await_end_iff known reported

def cancelledEarly : List Step :=
  [.newToken "t", .fromToken "a" "t", .withTimeout "b" "a" 1000, .advance 500,
    .cancelToken "t"]

def boundContext : Context := ⟨⟨0, []⟩, some 1000, 2⟩

/-- A cancellation that is looked at in time is reported after the deadline as well. -/
theorem noticed_cancellation_is_reported :
    firstCause? (cancelledEarly ++ [.error "b", .advance 1000]) boundContext =
        some .cancelled ↔
      ¬ Overtaken (cancelledEarly ++ [.error "b", .advance 1000]) boundContext :=
  (report_is_first_cause_unless_overtaken _ "b" (by decide) .cancelled).1 (by decide)

/-- A cancellation that nobody looked at is not. -/
theorem unnoticed_cancellation_is_overtaken :
    ¬ ∀ (steps : List Step) (name : String) (context : Context) (reason : EndReason),
      (Session.start.run steps).2.contexts.get? name = some context →
      ((Session.start.run steps).2.step (.error name)).1 = .reason (some reason) →
      firstCause? steps context = some reason := by
  intro first
  have cause := first (cancelledEarly ++ [.advance 1000]) "b" boundContext .deadlineExceeded
    (by decide) (by decide)
  exact absurd cause (by decide)

end CertSteward.Context
