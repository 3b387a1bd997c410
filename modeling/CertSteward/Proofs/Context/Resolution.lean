import CertSteward.Proofs.Context.Derivation
import CertSteward.Proofs.Timeline.Schedules

/-!
# Waiting for the end of a context

Who waits for a context that has ended is told so at once. For a live one the
wait is over with the first thing that is set for it, be it the deadline or a
cancellation of its token or of one above it, and gives that cause, which the
context then reports for good. Nothing else ends the wait.
-/

namespace CertSteward.Context

set_option autoImplicit false

namespace Session

/-- Whether an alarm may be set: on a token, or on a context that has a name. -/
def CanCancel (session : Session) : AlarmTarget → Prop
  | .context context => ∃ name, session.contexts.get? name = some context
  | .token _ => True

def schedule (session : Session) (plan : List (Nat × AlarmTarget)) : Session :=
  { session with
    timeline := plan.foldl (fun timeline entry => timeline.schedule entry.1 entry.2)
      session.timeline }

theorem schedule_alarms (session : Session) (plan : List (Nat × AlarmTarget)) :
    (session.schedule plan).timeline.alarms.Perm
      (plan.map (fun entry => ⟨session.timeline.now + entry.1, entry.2⟩) ++
        session.timeline.alarms) := by
  induction plan generalizing session with
  | nil => exact List.Perm.refl _
  | cons entry rest ih =>
      have later := ih { session with timeline := session.timeline.schedule entry.1 entry.2 }
      refine later.trans ?_
      exact ((Timeline.insert_alarm_perm _ _).append_left _).trans List.perm_middle

theorem schedule_orderly (session : Session) (plan : List (Nat × AlarmTarget))
    (orderly : session.timeline.Orderly) : (session.schedule plan).timeline.Orderly := by
  induction plan generalizing session with
  | nil => exact orderly
  | cons entry rest ih =>
      exact ih { session with timeline := session.timeline.schedule entry.1 entry.2 }
        (orderly.schedule entry.1 entry.2)

theorem orderly_with_context (session : Session) (name : String)
    (orderly : session.timeline.Orderly) {act : Context → Answer × Session}
    (each : ∀ context, (act context).2.timeline.Orderly) :
    (session.withContext name act).2.timeline.Orderly := by
  unfold withContext
  split
  · exact each _
  · exact orderly

theorem orderly_with_token (session : Session) (name : String)
    (orderly : session.timeline.Orderly) {act : Token → Answer × Session}
    (each : ∀ token, (act token).2.timeline.Orderly) :
    (session.withToken name act).2.timeline.Orderly := by
  unfold withToken
  split
  · exact each _
  · exact orderly

theorem orderly_step (session : Session) (step : Step) (orderly : session.timeline.Orderly) :
    (session.step step).2.timeline.Orderly := by
  have unchanged {later : Timeline} (now : later.now = session.timeline.now)
      (alarms : later.alarms = session.timeline.alarms) : later.Orderly :=
    orderly.of_same now alarms
  have bounded (context : Context) (deadline : Nat) :
      (session.timeline.withDeadline context deadline).2.Orderly :=
    unchanged (Timeline.with_deadline_now _ _ _) (Timeline.with_deadline_alarms _ _ _)
  cases step with
  | newContext name => exact unchanged rfl rfl
  | newToken name => exact unchanged rfl rfl
  | childToken name parent =>
      exact session.orderly_with_token _ orderly fun _ => unchanged rfl rfl
  | tokenOf name context => exact session.orderly_with_context _ orderly fun _ => orderly
  | fromToken name token =>
      exact session.orderly_with_token _ orderly fun _ => unchanged rfl rfl
  | clone name context => exact session.orderly_with_context _ orderly fun _ => orderly
  | withTimeout name context timeout =>
      exact session.orderly_with_context _ orderly fun context => bounded context _
  | withDeadline name context deadline =>
      exact session.orderly_with_context _ orderly fun context => bounded context deadline
  | deadline context => exact session.orderly_with_context _ orderly fun _ => orderly
  | cancel context =>
      exact session.orderly_with_context _ orderly fun context =>
        unchanged (Timeline.cancel_now _ context) (Timeline.cancel_alarms _ context)
  | cancelToken token => exact session.orderly_with_token _ orderly fun _ => unchanged rfl rfl
  | isTokenCancelled token => exact session.orderly_with_token _ orderly fun _ => orderly
  | isCancelled context =>
      exact session.orderly_with_context _ orderly fun context => orderly.observe context
  | error context =>
      exact session.orderly_with_context _ orderly fun context => orderly.observe context
  | advance milliseconds => exact orderly.pass milliseconds
  | cancelLater context delay =>
      exact session.orderly_with_context _ orderly fun _ => orderly.schedule delay _
  | done context limit =>
      exact session.orderly_with_context _ orderly fun context => orderly.await_end context _

theorem orderly_run (session : Session) (steps : List Step)
    (orderly : session.timeline.Orderly) : (session.run steps).2.timeline.Orderly := by
  induction steps generalizing session with
  | nil => exact orderly
  | cons step rest ih => exact ih _ (session.orderly_step step orderly)

end Session

/-- There is a chronicle of a session with cancellations set for later as well. -/
theorem Told.schedule_all {session : Session} {chronicle : Chronicle}
    (told : Told session chronicle) {plan : List (Nat × AlarmTarget)}
    (known : ∀ entry ∈ plan, session.CanCancel entry.2) :
    ∃ later, Told (session.schedule plan) later := by
  induction plan generalizing session chronicle with
  | nil => exact ⟨chronicle, told⟩
  | cons entry rest ih =>
      obtain ⟨first, others⟩ := List.forall_mem_cons.mp known
      have target : chronicle.KnowsTarget entry.2 := by
        cases acted : entry.2 with
        | token token => trivial
        | context context =>
            rw [acted] at first
            obtain ⟨name, named⟩ := first
            exact told.of_name named
      exact ih (told.schedule target entry.1) others

namespace Chronicle.Sound

variable {chronicle : Chronicle} {context : Context} {instant limit : Nat} {reason : EndReason}

/-- What a wait gives is so where it stops. -/
theorem await_end_shows (sound : chronicle.Sound) (known : context ∈ chronicle.contexts)
    (given : (chronicle.timeline.awaitEnd context limit).1 = some reason) :
    (chronicle.timeline.awaitEnd context limit).2.Shows context reason := by
  have seen := Timeline.observe_of_recorded
    (Timeline.recorded_of_await_end chronicle.timeline context given)
  have still : context ∈ (chronicle.awaitEnd context limit).contexts := by
    rw [contexts_await_end]
    exact known
  rw [← await_end_timeline] at seen ⊢
  exact (sound.await_end known limit).shows_of_look still seen

/-- The wait for a live context is over with the first thing that is set for it. -/
theorem await_end_first (sound : chronicle.Sound) (known : context ∈ chronicle.contexts)
    (orderly : chronicle.timeline.Orderly)
    (live : (chronicle.timeline.observe context).1 = none)
    (brings : chronicle.timeline.Brings context instant reason)
    (first : ∀ other cause, chronicle.timeline.Brings context other cause →
      instant ≤ other ∧ (other = instant → cause = reason))
    (early : instant < limit) :
    (chronicle.timeline.awaitEnd context limit).1 = some reason ∧
      (chronicle.timeline.awaitEnd context limit).2.now = instant := by
  have unfired := ((Timeline.observe_eq_none_iff _ _).mp live).2
  have ends := Timeline.end_instant_of_first orderly unfired brings
    fun other cause set => (first other cause set).1
  have ahead := Timeline.end_instant_ge ends
  have honest : (chronicle.timeline.observe context).1.isSome →
      (chronicle.timeline.fired? context).isSome := by simp [live]
  have ended := (Timeline.ends_by_iff (by omega) honest ends (by omega)).mpr early
  obtain ⟨found, after, awaited, -⟩ := Timeline.await_end_of_ends ended
  have given : (chronicle.timeline.awaitEnd context limit).1 = some found := by rw [awaited]
  have stop := Timeline.await_end_now honest ends (Nat.le_of_lt early)
  have shown := sound.await_end_shows known given
  refine ⟨given.trans (congrArg some ?_), stop⟩
  cases found with
  | deadlineExceeded =>
      obtain ⟨deadline, bound, reached⟩ := (Timeline.is_past_iff _ _).mp shown
      obtain ⟨least, same⟩ := first deadline .deadlineExceeded bound
      exact same (Nat.le_antisymm (stop ▸ reached) least)
  | cancelled =>
      cases reason with
      | cancelled => rfl
      | deadlineExceeded =>
          -- The token would have been cancelled ahead of the deadline, and so ahead of the first
          -- cause.
          have bound : context.deadline = some instant := brings
          have notPast := ((Timeline.fired_eq_none_iff _ _).mp unfired).1
          rw [Bool.eq_false_iff, Ne, Timeline.is_past_iff] at notPast
          have before : chronicle.timeline.now < instant :=
            Nat.lt_of_not_le fun past => notPast ⟨instant, bound, past⟩
          have lookout : Timeline.lookout context limit = instant := by
            rw [Timeline.lookout, bound]
            exact Nat.min_eq_left (Nat.le_of_lt early)
          obtain ⟨other, set, sooner⟩ :=
            Timeline.brings_of_await_end orderly live (by omega) shown
          have least := (first other .cancelled set).1
          omega

end Chronicle.Sound

namespace Session

variable {session : Session} {name : String} {context : Context} {limit : Nat}

theorem reason_of_error (named : session.contexts.get? name = some context)
    (reason : Option EndReason) :
    (session.step (.error name)).1 = .reason reason ↔
      (session.timeline.observe context).1 = reason := by
  rw [step_error named]
  simp only [Answer.reason.injEq]

/-- Who waits for a context that has ended is told so at once. -/
theorem done_of_ended (named : session.contexts.get? name = some context) {reason : EndReason}
    (ended : (session.timeline.observe context).1 = some reason) :
    (session.step (.done name limit)).1 = .ended (some reason) 0 := by
  rw [step_done named, Timeline.await_end_of_ended ended]
  dsimp only
  rw [Timeline.observe_now, Nat.sub_self]

/-- The whole limit is waited when nothing is set for a live context up to there. -/
theorem done_of_blank (named : session.contexts.get? name = some context)
    (orderly : session.timeline.Orderly) (live : (session.timeline.observe context).1 = none)
    (late : ∀ instant cause, session.timeline.Brings context instant cause →
      session.timeline.now + limit < instant) :
    (session.step (.done name limit)).1 = .ended none limit := by
  have waited := Timeline.await_end_before orderly live (Nat.le_add_right _ limit) late
  rw [step_done named, waited]
  dsimp only
  rw [Timeline.pass_to_now, Nat.max_eq_right (Nat.le_add_right _ limit), Nat.add_sub_cancel_left]

/-- The first thing that is set for a live context is not behind. -/
theorem first_cause_ahead (orderly : session.timeline.Orderly)
    (live : (session.timeline.observe context).1 = none) {instant : Nat} {reason : EndReason}
    (brings : session.timeline.Brings context instant reason)
    (first : ∀ other cause, session.timeline.Brings context other cause → instant ≤ other) :
    session.timeline.now ≤ instant := by
  have unfired := ((Timeline.observe_eq_none_iff _ _).mp live).2
  exact Timeline.end_instant_ge (Timeline.end_instant_of_first orderly unfired brings first)

/-- A wait with room for it is over with the first thing that is set for a live context. -/
theorem done_of_first {chronicle : Chronicle} (told : Told session chronicle)
    (named : session.contexts.get? name = some context) (orderly : session.timeline.Orderly)
    (live : (session.timeline.observe context).1 = none) {instant : Nat} {reason : EndReason}
    (brings : session.timeline.Brings context instant reason)
    (first : ∀ other cause, session.timeline.Brings context other cause →
      instant ≤ other ∧ (other = instant → cause = reason))
    (early : instant < session.timeline.now + limit) :
    (session.step (.done name limit)).1 =
      .ended (some reason) (instant - session.timeline.now) := by
  have known := told.of_name named
  rw [← told.timeline] at orderly live brings first early
  obtain ⟨result, stop⟩ := told.sound.await_end_first known orderly live brings first early
  rw [told.timeline] at result stop
  rw [step_done named, result, stop]

/-- What a wait gives is recorded and reported for good. -/
theorem settled_of_done (named : session.contexts.get? name = some context) {reason : EndReason}
    {waited : Nat}
    (ended : (session.step (.done name limit)).1 = .ended (some reason) waited) :
    let later := (session.step (.done name limit)).2
    later.timeline.recorded? context.record = some reason ∧
      later.Settled context.record reason := by
  rw [step_done named] at ended ⊢
  have recorded := Timeline.recorded_of_await_end session.timeline context
    (Answer.ended.inj ended).1
  exact ⟨recorded, settled_of_recorded _ recorded⟩

end Session

/-- Waiting for a context that has ended is over at once, with what the context reports. Waiting
for a live one is over with the first thing that is set for it and gives that cause, and neither
is over before nor where nothing is set. The cause that is given has been recorded, and the
context reports it for good. -/
theorem wait_ends_with_first_cause (steps : List Step) (plan : List (Nat × AlarmTarget))
    (name : String) {context : Context}
    (named : (Session.start.run steps).2.contexts.get? name = some context)
    (known : ∀ entry ∈ plan, (Session.start.run steps).2.CanCancel entry.2) :
    let before := (Session.start.run steps).2
    let session := before.schedule plan
    let timeline := session.timeline
    let report := (session.step (.error name)).1
    let done := fun limit => session.step (.done name limit)
    timeline.alarms.Perm
        (plan.map (fun entry => ⟨before.timeline.now + entry.1, entry.2⟩) ++
          before.timeline.alarms) ∧
      (∀ reason, report = .reason (some reason) →
        ∀ limit, (done limit).1 = .ended (some reason) 0) ∧
      (report = .reason none →
        (∀ instant reason, timeline.Brings context instant reason →
          (∀ other cause, timeline.Brings context other cause →
            instant ≤ other ∧ (other = instant → cause = reason)) →
          timeline.now ≤ instant ∧
            ∀ limit,
              (instant < timeline.now + limit →
                (done limit).1 = .ended (some reason) (instant - timeline.now)) ∧
              (timeline.now + limit < instant → (done limit).1 = .ended none limit)) ∧
        ((∀ instant reason, ¬ timeline.Brings context instant reason) →
          ∀ limit, (done limit).1 = .ended none limit)) ∧
      (∀ limit reason waited, (done limit).1 = .ended (some reason) waited →
        (done limit).2.timeline.recorded? context.record = some reason ∧
          (done limit).2.Settled context.record reason) := by
  intro before session timeline report done
  have present : session.contexts.get? name = some context := named
  have orderly : timeline.Orderly :=
    before.schedule_orderly plan (Session.orderly_run _ steps Timeline.start_orderly)
  obtain ⟨earlier, told⟩ := told_run steps
  obtain ⟨chronicle, told⟩ := told.schedule_all known
  refine ⟨before.schedule_alarms plan, ?_, ?_, ?_⟩
  · intro reason reported limit
    exact Session.done_of_ended present ((Session.reason_of_error present _).mp reported)
  · intro reported
    have live := (Session.reason_of_error present none).mp reported
    constructor
    · intro instant reason brings first
      have least (other : Nat) (cause : EndReason)
          (set : timeline.Brings context other cause) : instant ≤ other :=
        (first other cause set).1
      refine ⟨Session.first_cause_ahead orderly live brings least, fun limit => ⟨?_, ?_⟩⟩
      · intro early
        exact Session.done_of_first told present orderly live brings first early
      · intro late
        apply Session.done_of_blank present orderly live
        intro other cause set
        exact Nat.lt_of_lt_of_le late (least other cause set)
    · intro blank limit
      apply Session.done_of_blank present orderly live
      intro instant cause set
      exact absurd set (blank instant cause)
  · intro limit reason waited ended
    exact Session.settled_of_done present ended

def boundedBelow : List Step :=
  [.newToken "above", .childToken "below" "above", .fromToken "a" "below",
    .withTimeout "b" "a" 1000, .clone "c" "b", .cancelLater "c" 700]

def boundedContext : Context := ⟨⟨1, [0]⟩, some 1000, 3⟩

def cancelledAbove : List (Nat × AlarmTarget) := [(300, .token ⟨0, []⟩)]

theorem wait_ends_with_token_above :
    (Session.start.run boundedBelow).2.contexts.get? "b" = some boundedContext ∧
      (∀ entry ∈ cancelledAbove, (Session.start.run boundedBelow).2.CanCancel entry.2) ∧
      (((Session.start.run boundedBelow).2.schedule cancelledAbove).step (.done "b" 5000)).1 =
        .ended (some .cancelled) 300 ∧
      (((Session.start.run boundedBelow).2.schedule cancelledAbove).step
        (.done "b" 5000)).2.Settled 3 .cancelled := by
  have named : (Session.start.run boundedBelow).2.contexts.get? "b" = some boundedContext := by
    decide
  have known : ∀ entry ∈ cancelledAbove,
      (Session.start.run boundedBelow).2.CanCancel entry.2 := by
    simp [cancelledAbove, Session.CanCancel]
  have alarms : ((Session.start.run boundedBelow).2.schedule cancelledAbove).timeline.alarms =
      [⟨300, .token ⟨0, []⟩⟩, ⟨700, .context boundedContext⟩] := by decide
  obtain ⟨-, -, live, final⟩ :=
    wait_ends_with_first_cause boundedBelow cancelledAbove "b" named known
  obtain ⟨-, resolves⟩ := (live (by decide)).1 300 .cancelled
    ⟨⟨300, .token ⟨0, []⟩⟩, by rw [alarms]; exact List.mem_cons_self, rfl, by decide⟩ (by
      rintro other (_ | _) set
      · obtain ⟨alarm, member, rfl, -⟩ := set
        rw [alarms] at member
        obtain rfl | rfl : alarm = _ ∨ alarm = _ := by simpa using member
        · exact ⟨Nat.le_refl _, fun _ => rfl⟩
        · exact ⟨by decide, fun _ => rfl⟩
      · obtain rfl : 1000 = other := Option.some.inj set
        exact ⟨by decide, fun same => absurd same (by decide)⟩)
  have resolved := (resolves 5000).1 (by decide)
  exact ⟨named, known, resolved, (final 5000 .cancelled 300 resolved).2⟩

end CertSteward.Context
