import CertSteward.Proofs.Context.Soundness

/-!
# Chronicles of sessions

The chronicle of a session is kept step by step beside it. It stays sound,
its timeline stays that of the session, and every context that has a name in
the session has an account.
-/

namespace CertSteward.Context

set_option autoImplicit false

namespace Session

def chronicleAtContext (session : Session) (name : String) (chronicle : Chronicle)
    (change : Context → Chronicle) : Chronicle :=
  match session.contexts.get? name with
  | some context => change context
  | none => chronicle

def chronicleAtToken (session : Session) (name : String) (chronicle : Chronicle)
    (change : Token → Chronicle) : Chronicle :=
  match session.tokens.get? name with
  | some token => change token
  | none => chronicle

def follow (session : Session) (chronicle : Chronicle) : Step → Chronicle
  | .newContext _ => chronicle.newContext
  | .newToken _ => ⟨chronicle.timeline.newToken.2, chronicle.accounts⟩
  | .childToken _ parent => session.chronicleAtToken parent chronicle fun token =>
      ⟨(chronicle.timeline.childToken token).2, chronicle.accounts⟩
  | .fromToken _ token => session.chronicleAtToken token chronicle chronicle.fromToken
  | .withTimeout _ context timeout => session.chronicleAtContext context chronicle fun context =>
      chronicle.withDeadline context (chronicle.timeline.now + timeout)
  | .withDeadline _ context deadline =>
      session.chronicleAtContext context chronicle fun context =>
        chronicle.withDeadline context deadline
  | .cancel context => session.chronicleAtContext context chronicle chronicle.cancel
  | .cancelToken token => session.chronicleAtToken token chronicle chronicle.cancelToken
  | .isCancelled context => session.chronicleAtContext context chronicle chronicle.look
  | .error context => session.chronicleAtContext context chronicle chronicle.look
  | .advance milliseconds => chronicle.pass milliseconds
  | .cancelLater context delay => session.chronicleAtContext context chronicle fun context =>
      chronicle.schedule delay (.context context)
  | .done context limit => session.chronicleAtContext context chronicle fun context =>
      chronicle.awaitEnd context (chronicle.timeline.now + limit)
  | .tokenOf _ _ | .clone _ _ | .deadline _ | .isTokenCancelled _ => chronicle

end Session

/-- A chronicle of the timeline of a session, with an account of every context that has a
name. -/
structure Told (session : Session) (chronicle : Chronicle) : Prop where
  timeline : chronicle.timeline = session.timeline
  sound : chronicle.Sound
  named : ∀ entry ∈ session.contexts.entries, entry.2 ∈ chronicle.contexts

namespace Told

variable {session : Session} {chronicle : Chronicle}

theorem of_name (told : Told session chronicle) {name : String} {context : Context}
    (named : session.contexts.get? name = some context) : context ∈ chronicle.contexts := by
  obtain ⟨entry, found, rfl⟩ := Option.map_eq_some_iff.1 named
  exact told.named entry (List.mem_of_find?_eq_some found)

theorem later (told : Told session chronicle) {next : Session} {after : Chronicle}
    (names : next.contexts = session.contexts) (timeline : after.timeline = next.timeline)
    (sound : after.Sound) (grown : chronicle.contexts ⊆ after.contexts) : Told next after := by
  refine ⟨timeline, sound, ?_⟩
  rw [names]
  intro entry member
  exact grown (told.named entry member)

theorem name_context (told : Told session chronicle) {name : String}
    {made : Context × Timeline} {after : Chronicle} (timeline : after.timeline = made.2)
    (sound : after.Sound) (grown : chronicle.contexts ⊆ after.contexts)
    (own : made.1 ∈ after.contexts) : Told (session.nameContext name made).2 after := by
  refine ⟨timeline, sound, ?_⟩
  intro entry member
  rcases Mapping.mem_insert_entry member with rfl | earlier
  · exact own
  · exact grown (told.named entry earlier)

theorem at_context (told : Told session chronicle) (name : String)
    {act : Context → Answer × Session} {change : Context → Chronicle}
    (each : ∀ context ∈ chronicle.contexts, Told (act context).2 (change context)) :
    Told (session.withContext name act).2
      (session.chronicleAtContext name chronicle change) := by
  unfold Session.withContext Session.chronicleAtContext
  cases named : session.contexts.get? name with
  | none => exact told
  | some context => exact each context (told.of_name named)

theorem at_token (told : Told session chronicle) (name : String)
    {act : Token → Answer × Session} {change : Token → Chronicle}
    (each : ∀ token, Told (act token).2 (change token)) :
    Told (session.withToken name act).2 (session.chronicleAtToken name chronicle change) := by
  unfold Session.withToken Session.chronicleAtToken
  cases session.tokens.get? name with
  | none => exact told
  | some token => exact each token

theorem keep_at_context (told : Told session chronicle) (name : String)
    {act : Context → Answer × Session}
    (each : ∀ context ∈ chronicle.contexts, Told (act context).2 chronicle) :
    Told (session.withContext name act).2 chronicle := by
  unfold Session.withContext
  cases named : session.contexts.get? name with
  | none => exact told
  | some context => exact each context (told.of_name named)

theorem look (told : Told session chronicle) {context : Context}
    (known : context ∈ chronicle.contexts) :
    Told (session.observe context).2 (chronicle.look context) := by
  refine told.later rfl ?_ (told.sound.look known) ?_
  · rw [Chronicle.look, told.timeline]
    rfl
  · rw [Chronicle.contexts_look]
    exact List.Subset.refl _

theorem with_deadline (told : Told session chronicle) (name : String) {context : Context}
    (known : context ∈ chronicle.contexts) (deadline : Nat) :
    Told (session.nameContext name (session.timeline.withDeadline context deadline)).2
      (chronicle.withDeadline context deadline) := by
  rw [← told.timeline]
  exact told.name_context rfl (told.sound.with_deadline known deadline)
    (List.subset_cons_self _ _) List.mem_cons_self

theorem new_context (told : Told session chronicle) (name : String) :
    Told (session.nameContext name session.timeline.newContext).2 chronicle.newContext := by
  rw [← told.timeline]
  exact told.name_context rfl told.sound.new_context (List.subset_cons_self _ _)
    List.mem_cons_self

theorem from_token (told : Told session chronicle) (name : String) (token : Token) :
    Told (session.nameContext name (session.timeline.fromToken token)).2
      (chronicle.fromToken token) := by
  rw [← told.timeline]
  exact told.name_context rfl (told.sound.from_token token) (List.subset_cons_self _ _)
    List.mem_cons_self

theorem name_token (told : Told session chronicle) (name : String) {made : Token × Timeline}
    (fresh : made.2 = { chronicle.timeline with fresh := chronicle.timeline.fresh + 1 }) :
    Told (session.nameToken name made).2 ⟨made.2, chronicle.accounts⟩ :=
  told.later rfl rfl (told.sound.new_token fresh) (List.Subset.refl _)

theorem cancel (told : Told session chronicle) {context : Context}
    (known : context ∈ chronicle.contexts) :
    Told { session with timeline := session.timeline.cancel context }
      (chronicle.cancel context) := by
  refine told.later rfl ?_ (told.sound.cancel known) ?_
  · rw [← told.timeline]
    exact (Timeline.cancel_eq_observe _ _).symm
  · rw [Chronicle.contexts_cancel]
    exact List.Subset.refl _

theorem cancel_token (told : Told session chronicle) (token : Token) :
    Told { session with timeline := session.timeline.cancelToken token }
      (chronicle.cancelToken token) := by
  refine told.later rfl ?_ (told.sound.cancel_token token) ?_
  · rw [← told.timeline]
    rfl
  · rw [Chronicle.contexts_cancel_token]
    exact List.Subset.refl _

theorem pass (told : Told session chronicle) (milliseconds : Nat) :
    Told { session with timeline := session.timeline.pass milliseconds }
      (chronicle.pass milliseconds) := by
  refine told.later rfl ?_ (told.sound.pass milliseconds) ?_
  · rw [Chronicle.pass_timeline, told.timeline]
  · rw [Chronicle.contexts_pass]
    exact List.Subset.refl _

theorem schedule (told : Told session chronicle) {target : AlarmTarget}
    (known : chronicle.KnowsTarget target) (delay : Nat) :
    Told { session with timeline := session.timeline.schedule delay target }
      (chronicle.schedule delay target) := by
  refine told.later rfl ?_ (told.sound.schedule delay known) (List.Subset.refl _)
  rw [← told.timeline]
  rfl

theorem await_end (told : Told session chronicle) {context : Context}
    (known : context ∈ chronicle.contexts) (stop : Nat) :
    Told { session with timeline := (session.timeline.awaitEnd context stop).2 }
      (chronicle.awaitEnd context stop) := by
  refine told.later rfl ?_ (told.sound.await_end known _) ?_
  · rw [Chronicle.await_end_timeline, told.timeline]
  · rw [Chronicle.contexts_await_end]
    exact List.Subset.refl _

/-- The chronicle stays that of the session from step to step. -/
theorem step (told : Told session chronicle) (step : Step) :
    Told (session.step step).2 (session.follow chronicle step) := by
  cases step with
  | newContext name => exact told.new_context name
  | newToken name =>
      rw [Session.step, ← told.timeline]
      exact told.name_token name rfl
  | childToken name parent =>
      apply told.at_token parent
      intro token
      rw [← told.timeline]
      exact told.name_token name rfl
  | tokenOf name context =>
      apply told.keep_at_context context
      exact fun context _ => told.later rfl told.timeline told.sound (List.Subset.refl _)
  | fromToken name token => exact told.at_token token fun token => told.from_token name token
  | clone name context =>
      apply told.keep_at_context context
      intro context known
      exact told.name_context told.timeline told.sound (List.Subset.refl _) known
  | withTimeout name context timeout =>
      apply told.at_context context
      intro context known
      rw [told.timeline]
      exact told.with_deadline name known _
  | withDeadline name context deadline =>
      exact told.at_context context fun context known => told.with_deadline name known deadline
  | deadline context => exact told.keep_at_context context fun _ _ => told
  | cancel context => exact told.at_context context fun context known => told.cancel known
  | cancelToken token => exact told.at_token token told.cancel_token
  | isTokenCancelled token =>
      unfold Session.step Session.withToken
      dsimp only
      split <;> exact told
  | isCancelled context => exact told.at_context context fun context known => told.look known
  | error context => exact told.at_context context fun context known => told.look known
  | advance milliseconds => exact told.pass milliseconds
  | cancelLater context delay =>
      apply told.at_context context
      intro context known
      have target : chronicle.KnowsTarget (.context context) := known
      exact told.schedule target delay
  | done context limit =>
      apply told.at_context context
      intro context known
      rw [told.timeline]
      exact told.await_end known _

end Told

/-- A step of a session that a chronicle is kept of. -/
def tellStep (told : Session × Chronicle) (step : Step) : Session × Chronicle :=
  ((told.1.step step).2, told.1.follow told.2 step)

def tell (steps : List Step) : Session × Chronicle :=
  steps.foldl tellStep (.start, .start)

theorem tell_append (steps : List Step) (step : Step) :
    tell (steps ++ [step]) = tellStep (tell steps) step := by
  rw [tell, List.foldl_append]
  rfl

theorem told_foldl (steps : List Step) {told : Session × Chronicle}
    (start : Told told.1 told.2) :
    Told (steps.foldl tellStep told).1 (steps.foldl tellStep told).2 := by
  induction steps generalizing told with
  | nil => exact start
  | cons step rest ih => exact ih (start.step step)

theorem told_tell (steps : List Step) : Told (tell steps).1 (tell steps).2 := by
  refine told_foldl steps ⟨rfl, Chronicle.start_sound, ?_⟩
  intro entry member
  exact absurd member List.not_mem_nil

/-- To keep a chronicle changes nothing about the run. -/
theorem foldl_tell_session (steps : List Step) (told : Session × Chronicle) :
    (steps.foldl tellStep told).1 = (told.1.run steps).2 := by
  induction steps generalizing told with
  | nil => rfl
  | cons step rest ih => exact ih (tellStep told step)

theorem tell_session (steps : List Step) : (tell steps).1 = (Session.start.run steps).2 :=
  foldl_tell_session steps (.start, .start)

end CertSteward.Context
