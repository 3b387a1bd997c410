import CertSteward.Proofs.Context.Reports
import CertSteward.Proofs.Mapping

/-!
# Contexts made from others

A context that is made from another one, by clones and by deadlines, has the
token of its source and the earliest of all the deadlines on the way. It ends
with its source at the latest, and what had ended the source before is its
reason from the start.
-/

namespace CertSteward.Context

set_option autoImplicit false

namespace Session

theorem run_append (session : Session) (steps more : List Step) :
    (session.run (steps ++ more)).2 = ((session.run steps).2.run more).2 := by
  induction steps generalizing session with
  | nil => rfl
  | cons step rest ih => exact ih _

theorem run_concat (session : Session) (steps : List Step) (step : Step) :
    (session.run (steps ++ [step])).2 = ((session.run steps).2.step step).2 :=
  session.run_append steps [step]

end Session

/-- The contexts that are made from a source while steps are taken, by way of names that stand
for them, each with the instants that bound it besides the deadline of the source. -/
inductive Derives (session : Session) (source : Context) :
    List Step → Context → List Nat → Prop where
  | itself : Derives session source [] source []
  | later {steps : List Step} {context : Context} {instants : List Nat} (step : Step)
      (derives : Derives session source steps context instants) :
      Derives session source (steps ++ [step]) context instants
  | clone {steps : List Step} {context next : Context} {instants : List Nat}
      {name other : String} (derives : Derives session source steps context instants)
      (named : (session.run steps).2.contexts.get? name = some context)
      (made : (session.run (steps ++ [.clone other name])).2.contexts.get? other = some next) :
      Derives session source (steps ++ [.clone other name]) next instants
  | withDeadline {steps : List Step} {context next : Context} {instants : List Nat}
      {name other : String} {deadline : Nat}
      (derives : Derives session source steps context instants)
      (named : (session.run steps).2.contexts.get? name = some context)
      (made : (session.run (steps ++ [.withDeadline other name deadline])).2.contexts.get? other =
        some next) :
      Derives session source (steps ++ [.withDeadline other name deadline]) next
        (instants ++ [deadline])
  | withTimeout {steps : List Step} {context next : Context} {instants : List Nat}
      {name other : String} {timeout : Nat}
      (derives : Derives session source steps context instants)
      (named : (session.run steps).2.contexts.get? name = some context)
      (made : (session.run (steps ++ [.withTimeout other name timeout])).2.contexts.get? other =
        some next) :
      Derives session source (steps ++ [.withTimeout other name timeout]) next
        (instants ++ [(session.run steps).2.timeline.now + timeout])

section

variable {session : Session} {name other : String} {context next : Context}

theorem name_context_get (session : Session) (name : String) (made : Context × Timeline) :
    (session.nameContext name made).2.contexts.get? name = some made.1 := by
  rw [Session.nameContext, Mapping.get_insert, if_pos rfl]

theorem step_clone (named : session.contexts.get? name = some context) (other : String) :
    session.step (.clone other name) = session.nameContext other (context, session.timeline) := by
  simp only [Session.step, Session.withContext, named]

theorem step_with_deadline (named : session.contexts.get? name = some context) (other : String)
    (deadline : Nat) :
    session.step (.withDeadline other name deadline) =
      session.nameContext other (session.timeline.withDeadline context deadline) := by
  simp only [Session.step, Session.withContext, named]

theorem made_by_clone (named : session.contexts.get? name = some context)
    (made : (session.step (.clone other name)).2.contexts.get? other = some next) :
    next = context := by
  rw [step_clone named, name_context_get] at made
  exact (Option.some.inj made).symm

theorem made_by_deadline {deadline : Nat} (named : session.contexts.get? name = some context)
    (made : (session.step (.withDeadline other name deadline)).2.contexts.get? other =
      some next) :
    next = (session.timeline.withDeadline context deadline).1 := by
  rw [step_with_deadline named, name_context_get] at made
  exact (Option.some.inj made).symm

theorem step_with_timeout (session : Session) (name other : String) (timeout : Nat) :
    session.step (.withTimeout other name timeout) =
      session.step (.withDeadline other name (session.timeline.now + timeout)) := rfl

end

theorem min_concat (instants : List Nat) (last : Nat) :
    (instants ++ [last]).min? = Option.merge min instants.min? (some last) := by
  cases instants with
  | nil => rfl
  | cons first rest =>
      rw [List.cons_append, List.min?_cons', List.min?_cons', List.foldl_append]
      rfl

namespace Derives

variable {session : Session} {source context next : Context} {steps : List Step}
  {instants : List Nat}

/-- A property that every deadline set on the way keeps is one of all that is derived. -/
theorem rec_deadline {motive : List Step → Context → List Nat → Prop}
    (itself : motive [] source [])
    (later : ∀ steps context instants (step : Step), motive steps context instants →
      motive (steps ++ [step]) context instants)
    (bound : ∀ steps context instants (step : Step) deadline, motive steps context instants →
      (session.run (steps ++ [step])).2.timeline =
        ((session.run steps).2.timeline.withDeadline context deadline).2 →
      motive (steps ++ [step]) ((session.run steps).2.timeline.withDeadline context deadline).1
        (instants ++ [deadline]))
    (derives : Derives session source steps context instants) :
    motive steps context instants := by
  induction derives with
  | itself => exact itself
  | later step _ ih => exact later _ _ _ step ih
  | clone _ named made ih =>
      rw [Session.run_concat] at made
      rw [made_by_clone named made]
      exact later _ _ _ _ ih
  | withDeadline _ named made ih =>
      rw [Session.run_concat] at made
      rw [made_by_deadline named made]
      apply bound _ _ _ _ _ ih
      rw [Session.run_concat, step_with_deadline named]
      rfl
  | withTimeout _ named made ih =>
      rw [Session.run_concat, step_with_timeout] at made
      rw [made_by_deadline named made]
      apply bound _ _ _ _ _ ih
      rw [Session.run_concat, step_with_timeout, step_with_deadline named]
      rfl

theorem token (derives : Derives session source steps context instants) :
    context.token = source.token := by
  apply derives.rec_deadline (motive := fun _ context _ => context.token = source.token)
  · rfl
  · exact fun _ _ _ _ same => same
  · intro _ context _ _ deadline same _
    rw [Timeline.with_deadline_token, same]

theorem deadline (derives : Derives session source steps context instants) :
    context.deadline = (source.deadline.toList ++ instants).min? := by
  apply derives.rec_deadline (motive := fun _ context instants =>
    context.deadline = (source.deadline.toList ++ instants).min?)
  · rw [List.append_nil]
    cases source.deadline <;> rfl
  · exact fun _ _ _ _ same => same
  · intro _ context instants _ deadline same _
    rw [Timeline.with_deadline_deadline, same, ← List.append_assoc, min_concat]

end Derives

theorem told_run (steps : List Step) :
    ∃ chronicle, Told (Session.start.run steps).2 chronicle := by
  have told := told_tell steps
  rw [tell_session] at told
  exact ⟨_, told⟩

def Session.made? (session : Session) : Step → Option Context
  | .newContext _ => some session.timeline.newContext.1
  | .fromToken _ token =>
      (session.tokens.get? token).map fun token => (session.timeline.fromToken token).1
  | .withTimeout _ context timeout =>
      (session.contexts.get? context).map fun context =>
        (session.timeline.withTimeout context timeout).1
  | .withDeadline _ context deadline =>
      (session.contexts.get? context).map fun context =>
        (session.timeline.withDeadline context deadline).1
  | _ => none

/-- A step adds the account of what it makes, and no account is ever given up. -/
theorem contexts_follow {session : Session} {chronicle : Chronicle}
    (timeline : chronicle.timeline = session.timeline) (step : Step) :
    (session.follow chronicle step).contexts =
      (session.made? step).toList ++ chronicle.contexts := by
  have at_context (name : String) {change : Context → Chronicle}
      (each : ∀ context, (change context).contexts = chronicle.contexts) :
      (session.chronicleAtContext name chronicle change).contexts = chronicle.contexts := by
    unfold Session.chronicleAtContext
    split
    · exact each _
    · rfl
  have at_token (name : String) {change : Token → Chronicle}
      (each : ∀ token, (change token).contexts = chronicle.contexts) :
      (session.chronicleAtToken name chronicle change).contexts = chronicle.contexts := by
    unfold Session.chronicleAtToken
    split
    · exact each _
    · rfl
  cases step with
  | newContext name =>
      rw [Session.made?, ← timeline]
      rfl
  | newToken name => rfl
  | childToken name parent => exact at_token parent fun _ => rfl
  | tokenOf name context => rfl
  | fromToken name token =>
      rw [Session.made?, ← timeline, Session.follow, Session.chronicleAtToken]
      cases session.tokens.get? token <;> rfl
  | clone name context => rfl
  | withTimeout name context timeout =>
      rw [Session.made?, ← timeline, Session.follow, Session.chronicleAtContext]
      cases session.contexts.get? context <;> rfl
  | withDeadline name context deadline =>
      rw [Session.made?, ← timeline, Session.follow, Session.chronicleAtContext]
      cases session.contexts.get? context <;> rfl
  | deadline context => rfl
  | cancel context => exact at_context context fun _ => by simp
  | cancelToken token => exact at_token token fun _ => by simp
  | isTokenCancelled token => rfl
  | isCancelled context => exact at_context context fun _ => by simp
  | error context => exact at_context context fun _ => by simp
  | advance milliseconds => exact Chronicle.contexts_pass chronicle milliseconds
  | cancelLater context delay => exact at_context context fun _ => rfl
  | done context limit => exact at_context context fun _ => by simp

theorem contexts_follow_subset {session : Session} {chronicle : Chronicle}
    (told : Told session chronicle) (step : Step) :
    chronicle.contexts ⊆ (session.follow chronicle step).contexts := by
  rw [contexts_follow told.timeline]
  exact List.subset_append_right _ _

theorem contexts_tell (before steps : List Step) :
    (tell before).2.contexts ⊆ (tell (before ++ steps)).2.contexts := by
  induction steps generalizing before with
  | nil => rw [List.append_nil]; exact List.Subset.refl _
  | cons step rest ih =>
      have next := ih (before ++ [step])
      rw [List.append_assoc, List.singleton_append] at next
      refine List.Subset.trans ?_ next
      rw [tell_append]
      exact contexts_follow_subset (told_tell before) step

theorem tell_run (before steps : List Step) :
    (tell (before ++ steps)).1 = ((Session.start.run before).2.run steps).2 := by
  rw [tell_session, Session.run_append]

/-- A name of a session stands for a context of its chronicle. -/
theorem known_of_name {steps : List Step} {name : String} {context : Context}
    (named : (Session.start.run steps).2.contexts.get? name = some context) :
    context ∈ (tell steps).2.contexts := by
  rw [← tell_session] at named
  exact (told_tell steps).of_name named

theorem known_of_named {before steps : List Step} {name : String} {context : Context}
    (named : ((Session.start.run before).2.run steps).2.contexts.get? name = some context) :
    context ∈ (tell (before ++ steps)).2.contexts := by
  rw [← Session.run_append] at named
  exact known_of_name named

namespace Derives

variable {before : List Step} {source context : Context} {steps : List Step}
  {instants : List Nat}

/-- There is an account of whatever is derived from a context with one. -/
theorem known (derives : Derives (Session.start.run before).2 source steps context instants)
    (sourced : source ∈ (tell before).2.contexts) :
    context ∈ (tell (before ++ steps)).2.contexts := by
  induction derives with
  | itself => rwa [List.append_nil]
  | later step _ ih =>
      rw [← List.append_assoc]
      exact contexts_tell _ _ ih
  | clone _ _ made _ => exact known_of_named made
  | withDeadline _ _ made _ => exact known_of_named made
  | withTimeout _ _ made _ => exact known_of_named made

/-- What is recorded of a source is recorded of all that is derived from it. -/
theorem recorded (derives : Derives (Session.start.run before).2 source steps context instants)
    {reason : EndReason}
    (written : (Session.start.run before).2.timeline.recorded? source.record = some reason) :
    ((Session.start.run before).2.run steps).2.timeline.recorded? context.record =
      some reason := by
  apply derives.rec_deadline (motive := fun steps context _ =>
    ((Session.start.run before).2.run steps).2.timeline.recorded? context.record = some reason)
  · exact written
  · intro steps context _ step written
    rw [Session.run_concat]
    exact Session.keeps_step _ step _ _ written
  · intro steps context _ step deadline written made
    have blank : ((Session.start.run before).2.run steps).2.timeline.recorded?
        ((Session.start.run before).2.run steps).2.timeline.fresh = none := by
      obtain ⟨chronicle, told⟩ := told_run (before ++ steps)
      rw [Session.run_append] at told
      rw [← told.timeline]
      exact told.sound.blank _ (Nat.le_refl _)
    rw [made, Timeline.recorded_with_deadline _ _ _ blank, Timeline.with_deadline_record,
      if_pos rfl, written]

end Derives

/-- A context with the token of its source and no later deadline has ended if the source has. -/
theorem observe_is_some_of_source {chronicle : Chronicle} (sound : chronicle.Sound)
    {source derived : Context} (sourced : source ∈ chronicle.contexts)
    (known : derived ∈ chronicle.contexts) (token : derived.token = source.token)
    (early : ∀ deadline, source.deadline = some deadline →
      ∃ earlier, derived.deadline = some earlier ∧ earlier ≤ deadline)
    (ended : (chronicle.timeline.observe source).1.isSome) :
    (chronicle.timeline.observe derived).1.isSome := by
  rw [Option.isSome_iff_ne_none, Ne, sound.look_blank_iff known]
  rw [Option.isSome_iff_ne_none, Ne, sound.look_blank_iff sourced] at ended
  intro live
  obtain ⟨ahead, uncancelled⟩ := (Timeline.fired_eq_none_iff _ _).mp live
  refine ended ((Timeline.fired_eq_none_iff _ _).mpr ⟨?_, token ▸ uncancelled⟩)
  rw [Bool.eq_false_iff, Ne, Timeline.is_past_iff] at ahead ⊢
  rintro ⟨deadline, bounded, reached⟩
  obtain ⟨earlier, bound, before⟩ := early deadline bounded
  exact ahead ⟨earlier, bound, by omega⟩

theorem derived_ends_with_source {before steps : List Step} {name : String}
    {source derived : Context} {instants : List Nat}
    (named : (Session.start.run before).2.contexts.get? name = some source)
    (derives : Derives (Session.start.run before).2 source steps derived instants)
    (more : List Step) :
    let after := ((Session.start.run before).2.run (steps ++ more)).2.timeline
    (after.observe source).1.isSome → (after.observe derived).1.isSome := by
  intro after ended
  have sourced := known_of_name named
  have timeline : (tell (before ++ (steps ++ more))).2.timeline = after := by
    rw [(told_tell _).timeline, tell_run]
  have known := contexts_tell _ more (derives.known sourced)
  rw [List.append_assoc] at known
  rw [← timeline] at ended ⊢
  refine observe_is_some_of_source (told_tell _).sound (contexts_tell _ _ sourced) known
    derives.token ?_ ended
  intro deadline bounded
  have bound : derived.deadline = some (instants.foldl min deadline) := by
    rw [derives.deadline, bounded]
    exact List.min?_cons'
  have least := (List.min?_eq_some_iff.mp (derives.deadline.symm.trans bound)).2 deadline
  exact ⟨_, bound, least (by simp [bounded])⟩

end CertSteward.Context
