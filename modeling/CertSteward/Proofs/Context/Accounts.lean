import CertSteward.Proofs.Context.Chronicle

/-!
# What accounts tell of a timeline

An account fits a timeline if it knows of a cause exactly where there is one
to be seen, and of a noticed cancellation exactly where one is recorded. What
a context then reports is the cause that ended it first, with one exception:
the deadline has overtaken a cancellation that nobody looked at in time.
-/

namespace CertSteward.Context

set_option autoImplicit false

variable {timeline : Timeline} {account : Account}

namespace Account

def Overtaken (timeline : Timeline) (account : Account) : Prop :=
  account.cause = some .cancelled ∧ account.noticed = false ∧
    timeline.isPast account.context = true

instance (timeline : Timeline) (account : Account) : Decidable (account.Overtaken timeline) :=
  inferInstanceAs (Decidable (_ ∧ _))

structure Fits (timeline : Timeline) (account : Account) : Prop where
  live : account.cause = none → timeline.fired? account.context = none
  shown : ∀ reason, account.cause = some reason → timeline.Shows account.context reason
  noticed : timeline.recorded? account.context.record = some .cancelled ↔
    account.noticed = true
  late : timeline.recorded? account.context.record = some .deadlineExceeded →
    timeline.Shows account.context .deadlineExceeded
  ofNoticed : account.noticed = true → account.cause = some .cancelled

namespace Fits

theorem cause_of_shows (fits : account.Fits timeline) {reason : EndReason}
    (shown : timeline.Shows account.context reason) : account.cause ≠ none := by
  intro blank
  exact Timeline.fired_of_shows shown (fits.live blank)

/-- Before its deadline a context can only have ended by a cancellation. -/
theorem cause_before_deadline (fits : account.Fits timeline)
    (early : timeline.isPast account.context = false) {reason : EndReason}
    (shown : timeline.Shows account.context reason) : account.cause = some .cancelled := by
  cases cause : account.cause with
  | none => exact absurd cause (fits.cause_of_shows shown)
  | some first =>
      cases first with
      | cancelled => rfl
      | deadlineExceeded =>
          have past : timeline.isPast account.context = true := fits.shown _ cause
          rw [past] at early
          contradiction

theorem unnoticed (fits : account.Fits timeline)
    (unrecorded : timeline.recorded? account.context.record ≠ some .cancelled) :
    account.noticed = false := by
  cases noticed : account.noticed with
  | false => rfl
  | true => exact absurd (fits.noticed.2 noticed) unrecorded

theorem shown_of_report (fits : account.Fits timeline) {reason : EndReason}
    (reported : (timeline.observe account.context).1 = some reason) :
    timeline.Shows account.context reason := by
  rw [Timeline.observe_fst] at reported
  cases recorded : timeline.recorded? account.context.record with
  | some first =>
      rw [recorded, Option.some_or] at reported
      obtain rfl := Option.some.inj reported
      cases first with
      | cancelled => exact fits.shown _ (fits.ofNoticed (fits.noticed.1 recorded))
      | deadlineExceeded => exact fits.late recorded
  | none =>
      rw [recorded, Option.none_or] at reported
      exact Timeline.shows_of_fired reported

/-- A cancellation is reported if it has been noticed, or is noticed now before the deadline. -/
theorem reports_cancelled_iff (fits : account.Fits timeline) :
    (timeline.observe account.context).1 = some .cancelled ↔
      account.noticed = true ∨
        account.cause = some .cancelled ∧ timeline.isPast account.context = false := by
  rw [Timeline.observe_fst]
  cases recorded : timeline.recorded? account.context.record with
  | some first =>
      cases first with
      | cancelled => simp [fits.noticed.1 recorded]
      | deadlineExceeded =>
          have unnoticed := fits.unnoticed (by rw [recorded]; decide)
          have past : timeline.isPast account.context = true := fits.late recorded
          simp [unnoticed, past]
  | none =>
      have unnoticed := fits.unnoticed (by rw [recorded]; decide)
      cases past : timeline.isPast account.context with
      | true => simp [Timeline.fired?, unnoticed, past]
      | false =>
          simp only [Timeline.fired?, unnoticed, past, Option.none_or, Bool.false_eq_true,
            if_false, false_or, and_true]
          constructor
          · intro fired
            split at fired
            · rename_i cancelled
              have shown : timeline.Shows account.context .cancelled := cancelled
              exact fits.cause_before_deadline past shown
            · contradiction
          · intro cause
            have cancelled : timeline.isTokenCancelled account.context.token = true :=
              fits.shown _ cause
            rw [if_pos cancelled]

/-- A context reports the cause that ended it first, unless its deadline has overtaken a
cancellation. -/
theorem report_iff (fits : account.Fits timeline) {reason : EndReason}
    (reported : (timeline.observe account.context).1 = some reason) :
    account.cause = some reason ↔ ¬ account.Overtaken timeline := by
  have shown := fits.shown_of_report reported
  have cancellation := fits.reports_cancelled_iff
  rw [reported] at cancellation
  cases reason with
  | cancelled =>
      rcases cancellation.1 rfl with noticed | ⟨cause, early⟩
      · simp [Overtaken, noticed, fits.ofNoticed noticed]
      · simp [Overtaken, cause, early]
  | deadlineExceeded =>
      have past : timeline.isPast account.context = true := shown
      have unnoticed : account.noticed = false := by
        rw [← Bool.not_eq_true]
        intro noticed
        exact absurd (cancellation.2 (Or.inl noticed)) (by decide)
      cases cause : account.cause with
      | none => exact absurd cause (fits.cause_of_shows shown)
      | some first =>
          cases first with
          | cancelled => simp [Overtaken, cause, unnoticed, past]
          | deadlineExceeded => simp [Overtaken, cause]

theorem enter {later : Timeline} (fits : account.Fits timeline) {cause : EndReason}
    {ends : Context → Bool} (forward : timeline.now ≤ later.now)
    (grown : timeline.cancelled ⊆ later.cancelled)
    (records : later.records = timeline.records)
    (fired : timeline.fired? account.context = none →
      later.fired? account.context = if ends account.context then some cause else none) :
    (account.enter cause ends).Fits later := by
  have record : later.recorded? account.context.record =
      timeline.recorded? account.context.record := by
    rw [Timeline.recorded?, Timeline.recorded?, records]
  refine ⟨?_, ?_, ?_, ?_, ?_⟩
  · intro live
    obtain ⟨before, spared⟩ := enter_cause_eq_none live
    rw [enter_context, fired (fits.live before), spared]
    rfl
  · intro reason entered
    rw [enter_context]
    rcases enter_cause_eq_some entered with before | ⟨before, ended, rfl⟩
    · exact Timeline.stays_shown forward grown (fits.shown reason before)
    · exact Timeline.shows_of_fired (by rw [fired (fits.live before), ended, if_pos rfl])
  · rw [enter_context, enter_noticed, record]
    exact fits.noticed
  · rw [enter_context, record]
    intro recorded
    exact Timeline.stays_shown forward grown (fits.late recorded)
  · rw [enter_noticed]
    intro noticed
    rw [enter_of_ended (fits.ofNoticed noticed)]
    exact fits.ofNoticed noticed

theorem cancel_token (fits : account.Fits timeline) (token : Token) :
    (account.enter .cancelled fun context =>
      (timeline.cancelToken token).isTokenCancelled context.token).Fits
        (timeline.cancelToken token) := by
  refine fits.enter (Nat.le_refl _) (List.subset_cons_self _ _) rfl ?_
  -- What was live before cannot be past now, as the clock has not moved.
  intro live
  have early : (timeline.cancelToken token).isPast account.context = false :=
    ((Timeline.fired_eq_none_iff _ _).1 live).1
  rw [Timeline.fired?, early]
  rfl

theorem move_to (fits : account.Fits timeline) (instant : Nat) :
    (account.enter .deadlineExceeded (timeline.moveTo instant).isPast).Fits
      (timeline.moveTo instant) := by
  refine fits.enter (Nat.le_max_left _ _) (List.Subset.refl _) rfl ?_
  intro live
  have uncancelled : (timeline.moveTo instant).isTokenCancelled account.context.token = false :=
    ((Timeline.fired_eq_none_iff _ _).1 live).2
  rw [Timeline.fired?, uncancelled]
  rfl

/-- Only the clock, the cancelled tokens and the context's own record matter to an account. -/
theorem of_same {later : Timeline} (fits : account.Fits timeline)
    (now : later.now = timeline.now) (tokens : later.cancelled = timeline.cancelled)
    (record : later.recorded? account.context.record =
      timeline.recorded? account.context.record) : account.Fits later := by
  refine ⟨?_, ?_, ?_, ?_, fits.ofNoticed⟩
  · rw [Timeline.fired_of_same now tokens]
    exact fits.live
  · intro reason
    rw [Timeline.shows_of_same now tokens]
    exact fits.shown reason
  · rw [record]
    exact fits.noticed
  · rw [record, Timeline.shows_of_same now tokens]
    exact fits.late

/-- A look at a context is entered in the account of that context alone. -/
theorem look (fits : account.Fits timeline) (context : Context)
    (own : account.context.record = context.record → account.context = context) :
    (account.look timeline context.record).Fits (timeline.observe context).2 := by
  by_cases same : account.context.record = context.record
  · obtain rfl := own same
    cases reported : (timeline.observe account.context).1 with
    | none =>
        obtain ⟨_, unfired⟩ := (Timeline.observe_eq_none_iff _ _).1 reported
        have cause : account.cause ≠ some .cancelled := by
          intro cause
          exact Timeline.fired_of_shows (fits.shown _ cause) unfired
        have unchanged : account.look timeline account.context.record = account := by
          simp [Account.look, cause]
        rw [unchanged, Timeline.observe_of_live reported]
        exact fits
    | some reason =>
        have recorded := Timeline.recorded_of_observe reported
        have now := Timeline.observe_now timeline account.context
        have tokens := Timeline.observe_cancelled timeline account.context
        refine ⟨?_, ?_, ?_, ?_, ?_⟩
        · rw [look_cause, look_context, Timeline.fired_of_same now tokens]
          exact fits.live
        · intro reason
          rw [look_cause, look_context, Timeline.shows_of_same now tokens]
          exact fits.shown reason
        · rw [look_context, recorded, look_noticed_iff, ← fits.reports_cancelled_iff, reported]
        · rw [look_context, recorded]
          intro late
          rw [late] at reported
          rw [Timeline.shows_of_same now tokens]
          exact fits.shown_of_report reported
        · rw [look_noticed_iff, look_cause]
          intro noticed
          rcases noticed with noticed | ⟨cause, _⟩
          · exact fits.ofNoticed noticed
          · exact cause
  · have unchanged : account.look timeline context.record = account := by
      simp [Account.look, same]
    rw [unchanged]
    exact fits.of_same (Timeline.observe_now _ _) (Timeline.observe_cancelled _ _)
      (Timeline.recorded_observe_other _ _ same)

end Fits

end Account

end CertSteward.Context
