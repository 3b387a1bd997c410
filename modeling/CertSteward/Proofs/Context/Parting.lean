import CertSteward.Proofs.Context.Derivation
import CertSteward.Proofs.Timeline.Alike

/-!
# Sessions without the contexts bounded from a source

Beside a session runs the one in which the contexts bounded from a source are
never made: their numbers stay unused, who cancels one cancels the token alone,
and who waits for one waits for the token and the clock. Step by step the two
sides stay parallel, and what is not about such a context is answered alike.
-/

namespace CertSteward.Context

set_option autoImplicit false

namespace Step

def subject? : Step → Option String
  | .tokenOf _ context => some context
  | .clone _ context => some context
  | .withTimeout _ context _ => some context
  | .withDeadline _ context _ => some context
  | .deadline context => some context
  | .cancel context => some context
  | .isCancelled context => some context
  | .error context => some context
  | .cancelLater context _ => some context
  | .done context _ => some context
  | _ => none

def bounds : Step → Bool
  | .withTimeout _ _ _ => true
  | .withDeadline _ _ _ => true
  | _ => false

theorem of_bounds {step : Step} {name : String} (bounds : step.bounds = true)
    (subject : step.subject? = some name) :
    (∃ other deadline, step = .withDeadline other name deadline) ∨
      ∃ other timeout, step = .withTimeout other name timeout := by
  cases step with
  | withDeadline other context deadline =>
      exact .inl ⟨other, deadline, by rw [Option.some.inj subject]⟩
  | withTimeout other context timeout =>
      exact .inr ⟨other, timeout, by rw [Option.some.inj subject]⟩
  | _ => contradiction

end Step

/-- A session, the records of the contexts that were bounded from a source in it, and the session
in which these contexts are never made. -/
structure Parting where
  full : Session
  apart : List Nat
  bare : Session

namespace Parting

def start (session : Session) : Parting :=
  ⟨session, [], session⟩

def derived? (source : Nat) (parting : Parting) (step : Step) : Option Context :=
  (step.subject?.bind parting.full.contexts.get?).filter fun context =>
    parting.apart.contains context.record || (step.bounds && context.record == source)

def without (context : Context) (bare : Session) : Step → Session
  | .tokenOf name _ => (bare.nameToken name (context.token, bare.timeline)).2
  | .withTimeout _ _ _ =>
      { bare with timeline := { bare.timeline with fresh := bare.timeline.fresh + 1 } }
  | .withDeadline _ _ _ =>
      { bare with timeline := { bare.timeline with fresh := bare.timeline.fresh + 1 } }
  | .cancel _ => { bare with timeline := bare.timeline.cancelToken context.token }
  | .cancelLater _ delay =>
      { bare with timeline := bare.timeline.schedule delay (.token context.token) }
  | .done _ limit =>
      { bare with timeline := bare.timeline.awaitCause context (bare.timeline.now + limit) }
  | _ => bare

/-- Takes a step on both sides. There is no answer to what is about a context that is not there. -/
def step (source : Nat) (parting : Parting) (step : Step) : Option Answer × Parting :=
  let full := (parting.full.step step).2
  match parting.derived? source step with
  | some context =>
      (none, ⟨full,
        if step.bounds then parting.full.timeline.fresh :: parting.apart else parting.apart,
        without context parting.bare step⟩)
  | none => (some (parting.bare.step step).1, ⟨full, parting.apart, (parting.bare.step step).2⟩)

def run (source : Nat) (parting : Parting) : List Step → List (Option Answer) × Parting
  | [] => ([], parting)
  | step :: rest =>
      let (answer, parting) := parting.step source step
      let (answers, parting) := parting.run source rest
      (answer :: answers, parting)

/-- What the two sides of a parting have in common. -/
structure Parallel (parting : Parting) : Prop where
  timeline : parting.full.timeline.AlikeBut parting.apart parting.bare.timeline
  tokens : parting.bare.tokens = parting.full.tokens
  named : ∀ name context, parting.full.contexts.get? name = some context →
    context.record ∉ parting.apart → parting.bare.contexts.get? name = some context
  unnamed : ∀ name, parting.full.contexts.get? name = none →
    parting.bare.contexts.get? name = none

def Agree (apart : List Nat) (full bare : Answer × Session) : Prop :=
  bare.1 = full.1 ∧ Parallel ⟨full.2, apart, bare.2⟩

namespace Parallel

variable {full bare : Session} {apart : List Nat}

theorem later (parallel : Parallel ⟨full, apart, bare⟩) {timeline other : Timeline}
    (alike : timeline.AlikeBut apart other) (answer : Answer) :
    Agree apart (answer, { full with timeline := timeline })
      (answer, { bare with timeline := other }) :=
  ⟨rfl, alike, parallel.tokens, parallel.named, parallel.unnamed⟩

theorem name_token (parallel : Parallel ⟨full, apart, bare⟩) (name : String)
    {made other : Token × Timeline} (same : other.1 = made.1)
    (alike : made.2.AlikeBut apart other.2) :
    Agree apart (full.nameToken name made) (bare.nameToken name other) := by
  refine ⟨rfl, alike, ?_, parallel.named, parallel.unnamed⟩
  have tokens : bare.tokens = full.tokens := parallel.tokens
  simp only [Session.nameToken, same, tokens]

theorem name_context (parallel : Parallel ⟨full, apart, bare⟩) (name : String)
    {made other : Context × Timeline} (same : other.1 = made.1)
    (alike : made.2.AlikeBut apart other.2) :
    Agree apart (full.nameContext name made) (bare.nameContext name other) := by
  refine ⟨rfl, alike, parallel.tokens, ?_, ?_⟩
  · intro found context
    simp only [Session.nameContext, Mapping.get_insert, same]
    split
    · exact fun named _ => named
    · exact parallel.named found context
  · intro found
    simp only [Session.nameContext, Mapping.get_insert]
    split
    · exact fun unnamed => absurd unnamed (by simp)
    · exact parallel.unnamed found

theorem at_token (parallel : Parallel ⟨full, apart, bare⟩) (name : String)
    {act other : Token → Answer × Session}
    (each : ∀ token, Agree apart (act token) (other token)) :
    Agree apart (full.withToken name act) (bare.withToken name other) := by
  have tokens : bare.tokens = full.tokens := parallel.tokens
  unfold Session.withToken
  rw [tokens]
  split
  · exact each _
  · exact ⟨rfl, parallel⟩

/-- A name that stands for no context apart stands for the same on both sides. -/
theorem at_context (parallel : Parallel ⟨full, apart, bare⟩) {name : String}
    (outside : ∀ context, full.contexts.get? name = some context → context.record ∉ apart)
    {act other : Context → Answer × Session}
    (each : ∀ context, context.record ∉ apart → Agree apart (act context) (other context)) :
    Agree apart (full.withContext name act) (bare.withContext name other) := by
  unfold Session.withContext
  cases named : full.contexts.get? name with
  | none =>
      rw [show bare.contexts.get? name = none from parallel.unnamed name named]
      exact ⟨rfl, parallel⟩
  | some context =>
      have own := outside context named
      rw [show bare.contexts.get? name = some context from parallel.named name context named own]
      exact each context own

theorem look (parallel : Parallel ⟨full, apart, bare⟩) {context : Context}
    (outside : context.record ∉ apart) (answer : Option EndReason → Answer) :
    Agree apart (answer (full.observe context).1, (full.observe context).2)
      (answer (bare.observe context).1, (bare.observe context).2) := by
  have same := parallel.timeline.observe_fst outside
  refine ⟨congrArg answer same, ?_⟩
  exact (parallel.later (parallel.timeline.observe context) .silent).2

theorem with_deadline (parallel : Parallel ⟨full, apart, bare⟩) (name : String)
    {context : Context} (outside : context.record ∉ apart) (deadline : Nat) :
    Agree apart (full.nameContext name (full.timeline.withDeadline context deadline))
      (bare.nameContext name (bare.timeline.withDeadline context deadline)) := by
  obtain ⟨same, made⟩ := parallel.timeline.with_deadline outside deadline
  exact parallel.name_context name same made

theorem with_timeout (parallel : Parallel ⟨full, apart, bare⟩) (name : String)
    {context : Context} (outside : context.record ∉ apart) (timeout : Nat) :
    Agree apart (full.nameContext name (full.timeline.withTimeout context timeout))
      (bare.nameContext name (bare.timeline.withTimeout context timeout)) := by
  rw [Timeline.withTimeout, Timeline.withTimeout, parallel.timeline.now]
  exact parallel.with_deadline name outside _

theorem await_end (parallel : Parallel ⟨full, apart, bare⟩) {context : Context}
    (outside : context.record ∉ apart) (limit : Nat) :
    let awaited := full.timeline.awaitEnd context (full.timeline.now + limit)
    let other := bare.timeline.awaitEnd context (bare.timeline.now + limit)
    Agree apart
      (.ended awaited.1 (awaited.2.now - full.timeline.now), { full with timeline := awaited.2 })
      (.ended other.1 (other.2.now - bare.timeline.now), { bare with timeline := other.2 }) := by
  have now : bare.timeline.now = full.timeline.now := parallel.timeline.now
  obtain ⟨same, waited⟩ := parallel.timeline.await_end outside (full.timeline.now + limit)
  dsimp only
  rw [now]
  refine ⟨?_, (parallel.later waited .silent).2⟩
  dsimp only
  rw [same, waited.now]

/-- A step about nothing that is apart is answered alike on both sides. -/
theorem step_shared (parallel : Parallel ⟨full, apart, bare⟩) {step : Step}
    (outside : ∀ name context, step.subject? = some name →
      full.contexts.get? name = some context → context.record ∉ apart) :
    Agree apart (full.step step) (bare.step step) := by
  have alike := parallel.timeline
  cases step with
  | newContext name => exact parallel.name_context name alike.new_context.1 alike.new_context.2
  | newToken name => exact parallel.name_token name alike.new_token.1 alike.new_token.2
  | childToken name parent =>
      apply parallel.at_token
      intro token
      obtain ⟨same, made⟩ := alike.child_token token
      exact parallel.name_token name same made
  | tokenOf name context =>
      apply parallel.at_context (outside context · rfl)
      exact fun context _ => parallel.name_token name rfl alike
  | fromToken name token =>
      apply parallel.at_token
      intro token
      obtain ⟨same, made⟩ := alike.from_token token
      exact parallel.name_context name same made
  | clone name context =>
      apply parallel.at_context (outside context · rfl)
      exact fun context _ => parallel.name_context name rfl alike
  | withTimeout name context timeout =>
      apply parallel.at_context (outside context · rfl)
      exact fun context own => parallel.with_timeout name own timeout
  | withDeadline name context deadline =>
      apply parallel.at_context (outside context · rfl)
      exact fun context own => parallel.with_deadline name own deadline
  | deadline context =>
      apply parallel.at_context (outside context · rfl)
      exact fun context _ => ⟨rfl, parallel⟩
  | cancel context =>
      apply parallel.at_context (outside context · rfl)
      exact fun context _ => parallel.later (alike.cancel context) _
  | cancelToken token =>
      exact parallel.at_token token fun token => parallel.later (alike.cancel_token token) _
  | isTokenCancelled token =>
      apply parallel.at_token
      exact fun token => ⟨congrArg Answer.flag (alike.is_token_cancelled token), parallel⟩
  | isCancelled context =>
      apply parallel.at_context (outside context · rfl)
      exact fun context own => parallel.look own fun reason => .flag reason.isSome
  | error context =>
      apply parallel.at_context (outside context · rfl)
      exact fun context own => parallel.look own .reason
  | advance milliseconds => exact parallel.later (alike.pass milliseconds) _
  | cancelLater context delay =>
      apply parallel.at_context (outside context · rfl)
      exact fun context _ => parallel.later (alike.schedule delay _) _
  | done context limit =>
      apply parallel.at_context (outside context · rfl)
      exact fun context own => parallel.await_end own limit

/-- A name that comes to stand for a context apart does so on one side alone. -/
theorem name_apart (parallel : Parallel ⟨full, apart, bare⟩) (name : String)
    {made : Context × Timeline} {other : Timeline} {more : List Nat} (grown : apart ⊆ more)
    (derived : made.1.record ∈ more) (alike : made.2.AlikeBut more other) :
    Parallel ⟨(full.nameContext name made).2, more, { bare with timeline := other }⟩ := by
  refine ⟨alike, parallel.tokens, ?_, ?_⟩
  · intro found context named outside
    simp only [Session.nameContext, Mapping.get_insert] at named
    split at named
    · rw [← Option.some.inj named] at outside
      exact absurd derived outside
    · exact parallel.named found context named fun member => outside (grown member)
  · intro found unnamed
    simp only [Session.nameContext, Mapping.get_insert] at unnamed
    split at unnamed
    · contradiction
    · exact parallel.unnamed found unnamed

/-- A context that is bounded from one that is apart, or from the source, is apart. -/
theorem name_bounded (parallel : Parallel ⟨full, apart, bare⟩) (context : Context) (name : String)
    (deadline : Nat) :
    Parallel ⟨(full.nameContext name (full.timeline.withDeadline context deadline)).2,
      full.timeline.fresh :: apart,
      { bare with timeline := { bare.timeline with fresh := bare.timeline.fresh + 1 } }⟩ := by
  refine parallel.name_apart name (List.subset_cons_self _ _) ?_
    (parallel.timeline.with_deadline_apart context deadline)
  rw [Timeline.with_deadline_record]
  exact List.mem_cons_self

/-- A step that is about a context apart, or makes one, leaves the sides parallel where the bare
one does what is left of it. -/
theorem step_apart (parallel : Parallel ⟨full, apart, bare⟩) {step : Step} {name : String}
    {context : Context} (subject : step.subject? = some name)
    (named : full.contexts.get? name = some context)
    (derived : step.bounds = false → context.record ∈ apart)
    (blank : (full.timeline.observe context).1 = none ↔ full.timeline.fired? context = none) :
    Parallel ⟨(full.step step).2,
      if step.bounds then full.timeline.fresh :: apart else apart,
      without context bare step⟩ := by
  have alike := parallel.timeline
  have at_subject {found : String} (same : found = name) (act : Context → Answer × Session) :
      full.withContext found act = act context := by
    rw [Session.withContext, same, named]
  cases step with
  | withTimeout other found timeout =>
      obtain rfl := Option.some.inj subject
      rw [step_with_timeout, step_with_deadline named]
      exact parallel.name_bounded context other _
  | withDeadline other found deadline =>
      obtain rfl := Option.some.inj subject
      rw [step_with_deadline named]
      exact parallel.name_bounded context other deadline
  | tokenOf other found =>
      rw [Session.step, at_subject (Option.some.inj subject)]
      have agree : Agree apart (full.nameToken other (context.token, full.timeline))
          (bare.nameToken other (context.token, bare.timeline)) :=
        parallel.name_token other rfl alike
      exact agree.2
  | clone other found =>
      obtain rfl := Option.some.inj subject
      rw [step_clone named]
      exact parallel.name_apart other (List.Subset.refl _) (derived rfl) alike
  | deadline found =>
      rw [Session.step, at_subject (Option.some.inj subject)]
      exact parallel
  | cancel found =>
      obtain rfl := Option.some.inj subject
      rw [Session.step_cancel named]
      exact (parallel.later (alike.cancel_apart (derived rfl)) .silent).2
  | isCancelled found =>
      obtain rfl := Option.some.inj subject
      rw [Session.step_is_cancelled named]
      exact (parallel.later (alike.observe_apart (derived rfl)) .silent).2
  | error found =>
      obtain rfl := Option.some.inj subject
      rw [Session.step_error named]
      exact (parallel.later (alike.observe_apart (derived rfl)) .silent).2
  | cancelLater found delay =>
      rw [Session.step, at_subject (Option.some.inj subject)]
      exact (parallel.later (alike.schedule_apart delay (derived rfl)) .silent).2
  | done found limit =>
      have waited := alike.await_end_apart (derived rfl) blank (full.timeline.now + limit)
      obtain rfl := Option.some.inj subject
      rw [← alike.now] at waited
      rw [Session.step_done named, ← alike.now]
      exact (parallel.later waited .silent).2
  | _ => contradiction

end Parallel

section

variable {source : Nat} {parting : Parting} {step : Step}

theorem derived_eq_none_iff : parting.derived? source step = none ↔
    ∀ name context, step.subject? = some name → parting.full.contexts.get? name = some context →
      context.record ∉ parting.apart ∧ (step.bounds = true → context.record ≠ source) := by
  simp only [derived?, Option.filter_eq_none_iff, Option.bind_eq_some_iff]
  constructor
  · intro none name context subject named
    have outside := none context ⟨name, subject, named⟩
    simpa using outside
  · rintro none context ⟨name, subject, named⟩
    simpa using none name context subject named

theorem derived_eq_some_iff {context : Context} :
    parting.derived? source step = some context ↔
      ∃ name, step.subject? = some name ∧ parting.full.contexts.get? name = some context ∧
        (context.record ∈ parting.apart ∨ step.bounds = true ∧ context.record = source) := by
  rw [derived?, Option.filter_eq_some_iff, Option.bind_eq_some_iff, Bool.or_eq_true,
    Bool.and_eq_true, List.contains_iff_mem, beq_iff_eq]
  constructor
  · rintro ⟨⟨name, subject, named⟩, apart⟩
    exact ⟨name, subject, named, apart⟩
  · rintro ⟨name, subject, named, apart⟩
    exact ⟨⟨name, subject, named⟩, apart⟩

end

/-- A step leaves the sides parallel, and the bare one has no answer or that of the full one. -/
theorem step_parallel {parting : Parting} {chronicle : Chronicle} {source : Context}
    (told : Told parting.full chronicle) (sourced : source ∈ chronicle.contexts)
    (parallel : parting.Parallel) (own : source.record ∉ parting.apart) (step : Step) :
    let next := parting.step source.record step
    next.2.full = (parting.full.step step).2 ∧ next.2.Parallel ∧
      source.record ∉ next.2.apart ∧
      ∀ answer, next.1 = some answer → answer = (parting.full.step step).1 := by
  intro next
  cases derived : parting.derived? source.record step with
  | none =>
      have taken : next = (some (parting.bare.step step).1,
          ⟨(parting.full.step step).2, parting.apart, (parting.bare.step step).2⟩) := by
        simp only [next, Parting.step, derived]
      have agree := Parallel.step_shared parallel fun name context subject named =>
        (derived_eq_none_iff.mp derived name context subject named).1
      rw [taken]
      exact ⟨rfl, agree.2, own, fun answer same => (Option.some.inj same).symm.trans agree.1⟩
  | some context =>
      have taken : next = (none, ⟨(parting.full.step step).2,
          if step.bounds then parting.full.timeline.fresh :: parting.apart else parting.apart,
          without context parting.bare step⟩) := by
        simp only [next, Parting.step, derived]
      obtain ⟨name, subject, named, apart⟩ := derived_eq_some_iff.mp derived
      have known : step.bounds = false → context.record ∈ parting.apart := by
        intro looks
        exact apart.resolve_right fun bounded => Bool.false_ne_true (looks.symm.trans bounded.1)
      have blank := told.sound.look_blank_iff (told.of_name named)
      rw [told.timeline] at blank
      have used : source.record < parting.full.timeline.fresh := by
        obtain ⟨account, listed, rfl, -⟩ := told.sound.of_contexts sourced
        rw [← told.timeline]
        exact told.sound.used account listed
      rw [taken]
      refine ⟨rfl, Parallel.step_apart parallel subject named known blank, ?_, by simp⟩
      dsimp only
      split
      · rw [List.mem_cons, not_or]
        exact ⟨Nat.ne_of_lt used, own⟩
      · exact own

theorem run_parallel {parting : Parting} {chronicle : Chronicle} {source : Context}
    (told : Told parting.full chronicle) (sourced : source ∈ chronicle.contexts)
    (parallel : parting.Parallel) (own : source.record ∉ parting.apart) (steps : List Step) :
    let parted := parting.run source.record steps
    parted.2.full = (parting.full.run steps).2 ∧ parted.2.Parallel ∧
      source.record ∉ parted.2.apart ∧
      List.Forall₂ (fun kept answer => ∀ same, kept = some same → same = answer) parted.1
        (parting.full.run steps).1 := by
  induction steps generalizing parting chronicle with
  | nil => exact ⟨rfl, parallel, own, .nil⟩
  | cons step rest ih =>
      obtain ⟨full, next, outside, same⟩ := step_parallel told sourced parallel own step
      have after := told.step step
      rw [← full] at after
      obtain ⟨last, ends, apart, answers⟩ :=
        ih after (contexts_follow_subset told step sourced) next outside
      rw [full] at last answers
      exact ⟨last, ends, apart, .cons same answers⟩

end Parting

end CertSteward.Context
