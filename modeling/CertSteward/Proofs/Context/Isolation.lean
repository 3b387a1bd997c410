import CertSteward.Proofs.Context.Parting
import Mathlib.Data.List.Induction

/-!
# Sources and what is derived from them

A context that is bounded by a deadline has a record of its own, and nothing
that is written there is seen by its source. The source and its plain clones
are answered as if the contexts bounded from it had never been made.
-/

namespace CertSteward.Context

set_option autoImplicit false

namespace Parting

variable {source : Nat} {parting : Parting} {step : Step}

theorem mem_apart_step (record : Nat) :
    record ∈ (parting.step source step).2.apart ↔
      record ∈ parting.apart ∨ step.bounds = true ∧
        (parting.derived? source step).isSome ∧ record = parting.full.timeline.fresh := by
  unfold Parting.step
  dsimp only
  cases parting.derived? source step with
  | none => simp
  | some context => cases step.bounds <;> simp [or_comm]

theorem run_concat (source : Nat) (parting : Parting) (steps : List Step) (step : Step) :
    (parting.run source (steps ++ [step])).2 =
      ((parting.run source steps).2.step source step).2 := by
  induction steps generalizing parting with
  | nil => rfl
  | cons first rest ih => exact ih _

theorem start_parallel (session : Session) : (start session).Parallel :=
  ⟨.refl [] session.timeline, rfl, fun _ _ named _ => named, fun _ unnamed => unnamed⟩

end Parting

theorem Derives.stays (session : Session) (source : Context) (steps : List Step) :
    Derives session source steps source [] := by
  induction steps using List.reverseRecOn with
  | nil => exact .itself
  | append_singleton steps step ih => exact .later step ih

section

variable {before : List Step} {source : Context}

/-- The session after some steps, and beside it the one without the contexts bounded from a source
meanwhile. -/
def parted (before : List Step) (source : Context) (steps : List Step) : Parting :=
  ((Parting.start (Session.start.run before).2).run source.record steps).2

theorem parted_concat (steps : List Step) (step : Step) :
    parted before source (steps ++ [step]) =
      ((parted before source steps).step source.record step).2 :=
  Parting.run_concat _ _ _ _

theorem parted_parallel (sourced : source ∈ (tell before).2.contexts) (steps : List Step) :
    (parted before source steps).full = ((Session.start.run before).2.run steps).2 ∧
      (parted before source steps).Parallel ∧
      source.record ∉ (parted before source steps).apart ∧
      List.Forall₂ (fun kept answer => ∀ same, kept = some same → same = answer)
        ((Parting.start (Session.start.run before).2).run source.record steps).1
        ((Session.start.run before).2.run steps).1 := by
  have told := told_tell before
  rw [tell_session] at told
  exact Parting.run_parallel told sourced (Parting.start_parallel _) List.not_mem_nil steps

theorem apart_subset_concat (steps : List Step) (step : Step) :
    (parted before source steps).apart ⊆ (parted before source (steps ++ [step])).apart := by
  intro record apart
  rw [parted_concat, Parting.mem_apart_step]
  exact Or.inl apart

/-- The record of a context is kept apart if it is bounded from the source, or from a context whose
record is. -/
theorem apart_of_bound (sourced : source ∈ (tell before).2.contexts) {steps : List Step}
    {context : Context} {name : String} {step : Step} (deadline : Nat)
    (named : ((Session.start.run before).2.run steps).2.contexts.get? name = some context)
    (subject : step.subject? = some name) (bounds : step.bounds = true)
    (derived : context = source ∨ context.record ∈ (parted before source steps).apart) :
    (((Session.start.run before).2.run steps).2.timeline.withDeadline context
      deadline).1.record ∈ (parted before source (steps ++ [step])).apart := by
  have full := (parted_parallel sourced steps).1
  rw [← full] at named
  have found : ((parted before source steps).derived? source.record step).isSome := by
    refine Option.isSome_iff_exists.mpr ⟨context, Parting.derived_eq_some_iff.mpr
      ⟨name, subject, named, ?_⟩⟩
    obtain rfl | apart := derived
    · exact Or.inr ⟨bounds, rfl⟩
    · exact Or.inl apart
  rw [parted_concat, Parting.mem_apart_step, Timeline.with_deadline_record, ← full]
  exact Or.inr ⟨bounds, found, rfl⟩

theorem apart_of_derives (sourced : source ∈ (tell before).2.contexts) {steps : List Step}
    {context : Context} {instants : List Nat}
    (derives : Derives (Session.start.run before).2 source steps context instants) :
    (instants = [] → context = source) ∧
      (instants ≠ [] → context.record ∈ (parted before source steps).apart) := by
  have either {steps : List Step} {context : Context} {instants : List Nat}
      (ih : (instants = [] → context = source) ∧
        (instants ≠ [] → context.record ∈ (parted before source steps).apart)) :
      context = source ∨ context.record ∈ (parted before source steps).apart :=
    (em (instants = [])).imp ih.1 ih.2
  induction derives with
  | itself => exact ⟨fun _ => rfl, fun bounded => absurd rfl bounded⟩
  | later step _ ih => exact ⟨ih.1, fun set => apart_subset_concat _ step (ih.2 set)⟩
  | clone _ named made ih =>
      rw [Session.run_concat] at made
      rw [made_by_clone named made]
      exact ⟨ih.1, fun set => apart_subset_concat _ _ (ih.2 set)⟩
  | withDeadline _ named made ih =>
      rw [Session.run_concat] at made
      rw [made_by_deadline named made]
      exact ⟨by simp, fun _ => apart_of_bound sourced _ named rfl rfl (either ih)⟩
  | withTimeout _ named made ih =>
      rw [Session.run_concat, step_with_timeout] at made
      rw [made_by_deadline named made]
      exact ⟨by simp, fun _ => apart_of_bound sourced _ named rfl rfl (either ih)⟩

/-- A step that bounds what is derived from a source makes a context that is so as well. -/
theorem Derives.bound {session : Session} {steps : List Step} {context : Context}
    {instants : List Nat} (derives : Derives session source steps context instants)
    {name : String} (named : (session.run steps).2.contexts.get? name = some context)
    {step : Step} (bounds : step.bounds = true) (subject : step.subject? = some name) :
    ∃ next more, next.record = (session.run steps).2.timeline.fresh ∧ more ≠ [] ∧
      Derives session source (steps ++ [step]) next more := by
  have made (other : String) (deadline : Nat) :
      ((session.run steps).2.step (.withDeadline other name deadline)).2.contexts.get? other =
        some ((session.run steps).2.timeline.withDeadline context deadline).1 := by
    rw [step_with_deadline named, name_context_get]
  have record (deadline : Nat) := Timeline.with_deadline_record (session.run steps).2.timeline
    context deadline
  obtain ⟨other, deadline, rfl⟩ | ⟨other, timeout, rfl⟩ := Step.of_bounds bounds subject
  · refine ⟨_, _, record deadline, by simp, .withDeadline derives named ?_⟩
    rw [Session.run_concat]
    exact made other deadline
  · refine ⟨_, _, record ((session.run steps).2.timeline.now + timeout), by simp,
      .withTimeout derives named ?_⟩
    rw [Session.run_concat, step_with_timeout]
    exact made other _

/-- A record is one apart only as that of a context that was bounded from the source. -/
theorem derives_of_apart (sourced : source ∈ (tell before).2.contexts) {steps : List Step}
    {record : Nat} (apart : record ∈ (parted before source steps).apart) :
    ∃ context instants, context.record = record ∧ instants ≠ [] ∧
      Derives (Session.start.run before).2 source steps context instants := by
  induction steps using List.reverseRecOn generalizing record with
  | nil => exact absurd apart List.not_mem_nil
  | append_singleton steps step ih =>
      rw [parted_concat, Parting.mem_apart_step] at apart
      obtain apart | ⟨bounds, derived, rfl⟩ := apart
      · obtain ⟨context, instants, same, set, derives⟩ := ih apart
        exact ⟨context, instants, same, set, .later step derives⟩
      · obtain ⟨bound, found⟩ := Option.isSome_iff_exists.mp derived
        obtain ⟨name, subject, named, apart⟩ := Parting.derived_eq_some_iff.mp found
        rw [(parted_parallel sourced steps).1] at named ⊢
        have known := known_of_named named
        have sound := (told_tell (before ++ steps)).sound
        -- What is bounded now is the source or was bounded from it before.
        obtain ⟨instants, derives⟩ : ∃ instants,
            Derives (Session.start.run before).2 source steps bound instants := by
          obtain apart | ⟨-, same⟩ := apart
          · obtain ⟨context, instants, same, -, derives⟩ := ih apart
            rw [sound.context_eq_of_record (derives.known sourced) known same] at derives
            exact ⟨instants, derives⟩
          · refine ⟨[], ?_⟩
            rw [sound.context_eq_of_record known (contexts_tell before steps sourced) same]
            exact .stays _ source steps
        exact derives.bound named bounds subject

/-- The contexts whose records are kept apart are those that were bounded from the source. -/
theorem apart_iff_derives (sourced : source ∈ (tell before).2.contexts) {steps : List Step}
    {context : Context} (known : context ∈ (tell (before ++ steps)).2.contexts) :
    context.record ∈ (parted before source steps).apart ↔
      ∃ instants, instants ≠ [] ∧
        Derives (Session.start.run before).2 source steps context instants := by
  constructor
  · intro apart
    obtain ⟨other, instants, same, set, derives⟩ := derives_of_apart sourced apart
    rw [(told_tell _).sound.context_eq_of_record (derives.known sourced) known same] at derives
    exact ⟨instants, set, derives⟩
  · rintro ⟨instants, set, derives⟩
    exact (apart_of_derives sourced derives).2 set

end

/-- What is derived from a context has its token and the earliest deadline, has ended wherever the
source has, and starts out with its reason. The source knows nothing of what was bounded from it:
it is answered as in the session in which no such context is made, where only its token is
cancelled in the place of one of them. -/
theorem derived_follows_source_alone (before : List Step) (name : String) {source : Context}
    (named : (Session.start.run before).2.contexts.get? name = some source)
    (later : List Step) :
    let session := (Session.start.run before).2
    let after := (session.run later).2
    let parting := parted before source later
    (∀ derived instants, Derives session source later derived instants →
        derived.token = source.token ∧
        derived.deadline = (source.deadline.toList ++ instants).min? ∧
        (∀ more, ((session.run (later ++ more)).2.timeline.observe source).1.isSome →
          ((session.run (later ++ more)).2.timeline.observe derived).1.isSome) ∧
        ∀ reason, session.timeline.recorded? source.record = some reason →
          after.Settled derived.record reason) ∧
      (∀ other context, after.contexts.get? other = some context →
        (context.record ∈ parting.apart ↔
          ∃ instants, instants ≠ [] ∧ Derives session source later context instants)) ∧
      List.Forall₂ (fun kept answer => ∀ same, kept = some same → same = answer)
        ((Parting.start session).run source.record later).1 (session.run later).1 ∧
      (∀ other, after.contexts.get? other = some source →
        parting.bare.contexts.get? other = some source ∧
          ∀ look : Step, look.subject? = some other →
            (after.step look).1 = (parting.bare.step look).1) ∧
      (∀ other, after.contexts.get? other = some source →
        (after.step (.error other)).1 = .reason (some .deadlineExceeded) →
          ∃ deadline, source.deadline = some deadline ∧ deadline ≤ after.timeline.now) := by
  intro session after parting
  have sourced := known_of_name named
  obtain ⟨full, parallel, own, answers⟩ := parted_parallel sourced later
  refine ⟨?_, ?_, answers, ?_, ?_⟩
  · intro derived instants derives
    refine ⟨derives.token, derives.deadline, derived_ends_with_source named derives, ?_⟩
    intro reason recorded
    exact Session.settled_of_recorded _ (derives.recorded recorded)
  · intro other context found
    exact apart_iff_derives sourced (known_of_named found)
  · intro other found
    have same : parting.full = after := full
    rw [← same] at found ⊢
    refine ⟨parallel.named other source found own, ?_⟩
    intro look subject
    have agree : Parting.Agree parting.apart (parting.full.step look) (parting.bare.step look) := by
      apply Parting.Parallel.step_shared parallel
      intro subjectName context alike known
      rw [← Option.some.inj (subject.symm.trans alike)] at known
      rw [← Option.some.inj (found.symm.trans known)]
      exact own
    exact agree.1.symm
  · intro other found late
    rw [Session.step_error found] at late
    have reported := Answer.reason.inj late
    have told := told_tell (before ++ later)
    have timeline : (tell (before ++ later)).2.timeline = after.timeline := by
      rw [told.timeline, tell_run]
    rw [← timeline] at reported ⊢
    exact (Timeline.is_past_iff _ _).mp (told.sound.shows_of_look (known_of_named found) reported)

def boundedBeside : List Step :=
  [.withTimeout "bounded" "base" 1000, .advance 2000, .error "bounded"]

def baseContext : Context := ⟨⟨0, []⟩, none, 1⟩

/-- The source goes on, as it would if nothing had been bounded from it. -/
theorem deadline_does_not_leak :
    (Session.start.run [.newContext "base"]).2.contexts.get? "base" = some baseContext ∧
      (((Session.start.run [.newContext "base"]).2.run boundedBeside).2.step
        (.error "bounded")).1 = .reason (some .deadlineExceeded) ∧
      (((Session.start.run [.newContext "base"]).2.run boundedBeside).2.step
        (.error "base")).1 = .reason none ∧
      ((parted [.newContext "base"] baseContext boundedBeside).bare.step (.error "base")).1 =
        .reason none := by
  have named : (Session.start.run [.newContext "base"]).2.contexts.get? "base" =
      some baseContext := by decide
  obtain ⟨-, -, -, looks, -⟩ :=
    derived_follows_source_alone [.newContext "base"] "base" named boundedBeside
  have live : (((Session.start.run [.newContext "base"]).2.run boundedBeside).2.step
      (.error "base")).1 = .reason none := by decide
  exact ⟨named, by decide, live, ((looks "base" (by decide)).2 (.error "base") rfl).symm.trans live⟩

end CertSteward.Context
