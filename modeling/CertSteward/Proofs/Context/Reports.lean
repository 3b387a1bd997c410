import CertSteward.Proofs.Context.FirstCause
import CertSteward.Proofs.Context.Records
import CertSteward.Proofs.Timeline.Instants

/-!
# What reports are worth

A context reports nothing as long as nothing has ended it, each reason only
where its cause is there, and the same reason from the first report on, to
everyone who shares its record.
-/

namespace CertSteward.Context

set_option autoImplicit false

namespace Chronicle.Sound

variable {chronicle : Chronicle} {context : Context}

/-- Nothing is recorded before its cause is there, so a blank look means that there is none. -/
theorem look_blank_iff (sound : chronicle.Sound) (known : context ∈ chronicle.contexts) :
    (chronicle.timeline.observe context).1 = none ↔
      chronicle.timeline.fired? context = none := by
  obtain ⟨account, listed, rfl, _⟩ := sound.of_contexts known
  constructor
  · intro blank
    exact ((Timeline.observe_eq_none_iff _ _).1 blank).2
  · intro unfired
    rw [Option.eq_none_iff_forall_ne_some]
    intro reason reported
    have shown := (sound.fits account listed).shown_of_report reported
    exact Timeline.fired_of_shows shown unfired

/-- What has an account is honest now and stays so while time passes. -/
theorem honest (sound : chronicle.Sound) (known : context ∈ chronicle.contexts) :
    chronicle.timeline.Honest context := by
  intro instant ended
  have later := pass_alarms instant sound sound.known
  have still : context ∈ (passAlarms instant chronicle.timeline.alarms chronicle).contexts := by
    rw [contexts_pass_alarms]
    exact known
  have blank := later.look_blank_iff still
  rw [pass_alarms_timeline, ← Timeline.passTo] at blank
  rw [Option.isSome_iff_ne_none] at ended ⊢
  exact fun unfired => ended (blank.2 unfired)

theorem shows_of_look (sound : chronicle.Sound) (known : context ∈ chronicle.contexts)
    {reason : EndReason} (reported : (chronicle.timeline.observe context).1 = some reason) :
    chronicle.timeline.Shows context reason := by
  obtain ⟨account, listed, rfl, _⟩ := sound.of_contexts known
  exact (sound.fits account listed).shown_of_report reported

/-- A reported cancellation was the first cause. A deadline may have overtaken another one. -/
theorem cause_of_look_cancelled (sound : chronicle.Sound)
    (known : context ∈ chronicle.contexts)
    (reported : (chronicle.timeline.observe context).1 = some .cancelled) :
    chronicle.cause? context = some .cancelled := by
  obtain ⟨account, listed, rfl, found⟩ := sound.of_contexts known
  have fits := sound.fits account listed
  rw [cause?, found]
  rcases fits.reports_cancelled_iff.1 reported with noticed | ⟨cause, _⟩
  · exact fits.ofNoticed noticed
  · exact cause

end Chronicle.Sound

/-- After any run of steps, what a context reports is true and final: it reports nothing exactly
as long as neither its token nor one above is cancelled and its deadline is not reached; a
cancellation only if that came first; the deadline only once it has passed; and what has been
reported, or was brought about by cancelling a live context, is reported to all who share the
record from then on. -/
theorem reports_are_true_and_final (steps : List Step) (name : String) {context : Context}
    (named : (Session.start.run steps).2.contexts.get? name = some context) :
    let session := (Session.start.run steps).2
    let report := fun reason => (session.step (.error name)).1 = .reason reason
    (report none ↔
        (¬ ∃ id ∈ context.token.id :: context.token.ancestors,
            id ∈ session.timeline.cancelled) ∧
          ∀ deadline, context.deadline = some deadline → session.timeline.now < deadline) ∧
      (report (some .cancelled) →
        (∃ id ∈ context.token.id :: context.token.ancestors,
            id ∈ session.timeline.cancelled) ∧
          firstCause? steps context = some .cancelled) ∧
      (report (some .deadlineExceeded) →
        ∃ deadline, context.deadline = some deadline ∧ deadline ≤ session.timeline.now) ∧
      (∃ reason, report reason ∧
        (session.step (.isCancelled name)).1 = .flag reason.isSome) ∧
      (∀ reason, report (some reason) →
        (session.step (.error name)).2.Settled context.record reason ∧
          (session.step (.isCancelled name)).2.Settled context.record reason) ∧
      (∀ reason limit waited,
        (session.step (.done name limit)).1 = .ended (some reason) waited →
          (session.step (.done name limit)).2.Settled context.record reason) ∧
      (report none → (session.step (.cancel name)).2.Settled context.record .cancelled) := by
  intro session report
  have told := told_tell steps
  rw [tell_session] at told
  have known := told.of_name named
  have timeline : (tell steps).2.timeline = session.timeline := told.timeline
  have report_iff (reason : Option EndReason) :
      report reason ↔ (session.timeline.observe context).1 = reason := by
    have answered : (session.step (.error name)).1 =
        .reason (session.timeline.observe context).1 := by rw [Session.step_error named]
    dsimp only [report]
    rw [answered, Answer.reason.injEq]
  have look_iff := told.sound.look_blank_iff known
  rw [timeline] at look_iff
  refine ⟨?_, ?_, ?_, ?_, ?_, ?_, ?_⟩
  · rw [report_iff, look_iff, Timeline.fired_eq_none_iff, and_comm, ← Bool.not_eq_true,
      ← Bool.not_eq_true, Timeline.is_token_cancelled_iff, Timeline.is_past_iff]
    simp only [not_exists, not_and, Nat.not_le]
  · intro cancelled
    have reported := (report_iff _).1 cancelled
    rw [← timeline] at reported ⊢
    have shown := told.sound.shows_of_look known reported
    exact ⟨(Timeline.is_token_cancelled_iff _ _).1 shown,
      told.sound.cause_of_look_cancelled known reported⟩
  · intro late
    have reported := (report_iff _).1 late
    rw [← timeline] at reported ⊢
    have shown := told.sound.shows_of_look known reported
    exact (Timeline.is_past_iff _ _).1 shown
  · refine ⟨(session.timeline.observe context).1, (report_iff _).2 rfl, ?_⟩
    rw [Session.step_is_cancelled named]
  · intro reason reported
    have recorded := Timeline.recorded_of_observe ((report_iff _).1 reported)
    rw [Session.step_error named, Session.step_is_cancelled named]
    exact ⟨Session.settled_of_recorded _ recorded, Session.settled_of_recorded _ recorded⟩
  · intro reason limit waited ended
    rw [Session.step_done named] at ended ⊢
    have reported := (Answer.ended.inj ended).1
    exact Session.settled_of_recorded _ (Timeline.recorded_of_await_end _ _ reported)
  · intro live
    rw [Session.step_cancel named]
    exact Session.settled_of_recorded _
      (Timeline.recorded_of_cancel _ _ ((report_iff _).1 live))

def clonedBelow : List Step :=
  [.newToken "above", .childToken "below" "above", .fromToken "a" "below", .clone "b" "a",
    .withTimeout "c" "a" 1000, .advance 500]

def contextBelow : Context := ⟨⟨1, [0]⟩, none, 2⟩

/-- The token above is cancelled: the context and its clone report it for good. -/
theorem cancelled_above_is_final :
    (Session.start.run (clonedBelow ++ [.cancelToken "above"])).2.contexts.get? "a" =
        some contextBelow ∧
      firstCause? (clonedBelow ++ [.cancelToken "above"]) contextBelow = some .cancelled ∧
      ((Session.start.run (clonedBelow ++ [.cancelToken "above"])).2.step
        (.error "a")).2.Settled 2 .cancelled := by
  have named : (Session.start.run (clonedBelow ++ [.cancelToken "above"])).2.contexts.get? "a" =
      some contextBelow := by decide
  obtain ⟨_, cancelled, _, _, final, _⟩ :=
    reports_are_true_and_final (clonedBelow ++ [.cancelToken "above"]) "a" named
  have reported : ((Session.start.run (clonedBelow ++ [.cancelToken "above"])).2.step
      (.error "a")).1 = .reason (some .cancelled) := by decide
  exact ⟨named, (cancelled reported).2, (final _ reported).1⟩

end CertSteward.Context
