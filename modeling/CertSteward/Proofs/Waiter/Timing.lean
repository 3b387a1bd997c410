import CertSteward.Proofs.Context.Reports
import CertSteward.Proofs.Waiter.Outcome
import Mathlib.Data.Nat.Find

/-!
# What the clock shows of a wait

The first fetch is made at once and every other one an interval after the
reply before it, of which nothing but the service and the interval decides. A
context that ends has the wait end at that very instant, or with the reply
that is on its way then, and no fetch but the first is made afterwards.
-/

namespace CertSteward

set_option autoImplicit false

namespace Waiter

variable {State : Type}

/-- A pause is the interval, rounded up to whole milliseconds. -/
theorem pause_bounds (waiter : Waiter) :
    waiter.interval ≤ waiter.pause * 1000000 ∧
      waiter.pause * 1000000 < waiter.interval + 1000000 := by
  unfold pause
  have parts := Nat.div_add_mod waiter.interval 1000000
  have small := Nat.mod_lt waiter.interval (show 1000000 > 0 by decide)
  split <;> omega

theorem pause_with_interval_ge (waiter : Waiter) (interval : Nat) :
    10 ≤ (waiter.withInterval interval).pause := by
  have covered := (pause_bounds (waiter.withInterval interval)).1
  have raised : leastInterval ≤ (waiter.withInterval interval).interval := Nat.le_max_right _ _
  unfold leastInterval at raised
  omega

section

variable (waiter : Waiter) (service : Service State) (operation : String)

theorem wake_up_eq_fetch_instant (number : Nat) (state : State) (started : Nat) :
    waiter.wakeUp service operation number state started =
      waiter.fetchInstant service operation (number + 1) state started := by
  induction number generalizing state started with
  | zero => rfl
  | succ number ih =>
      exact ih (waiter.answer service operation state).2
        (started + (waiter.answer service operation state).1.took + waiter.pause)

theorem fetch_instant_lt_wake_up (lasting : 0 < waiter.pause) (number : Nat) (state : State)
    (started : Nat) :
    waiter.fetchInstant service operation number state started <
      waiter.wakeUp service operation number state started := by
  unfold wakeUp arrivalInstant
  omega

/-- Fetches are numbered in the order of their instants, so every instant is overtaken. -/
theorem number_le_wake_up (lasting : 0 < waiter.pause) (number : Nat) (state : State)
    (started : Nat) : number < waiter.wakeUp service operation number state started := by
  induction number with
  | zero =>
      have first := fetch_instant_lt_wake_up waiter service operation lasting 0 state started
      omega
  | succ number ih =>
      have next := fetch_instant_lt_wake_up waiter service operation lasting (number + 1)
        state started
      rw [← wake_up_eq_fetch_instant] at next
      omega

theorem wake_up_mono (lasting : 0 < waiter.pause) {first second : Nat} (later : first ≤ second)
    (state : State) (started : Nat) :
    waiter.wakeUp service operation first state started ≤
      waiter.wakeUp service operation second state started := by
  induction later with
  | refl => exact Nat.le_refl _
  | @step second _ ih =>
      have next := fetch_instant_lt_wake_up waiter service operation lasting (second + 1)
        state started
      rw [← wake_up_eq_fetch_instant] at next
      exact Nat.le_trans ih (Nat.le_of_lt next)

theorem arrival_now (number : Nat) (state : State) (timeline : Timeline) :
    (waiter.arrival service operation number state timeline).now =
      waiter.arrivalInstant service operation number state timeline.now := by
  have fetched := fetch_instant_ge waiter service operation number state timeline.now
  rw [arrival, Timeline.pass_to_now]
  unfold arrivalInstant
  omega

/-- Whether a reply ends the wait whatever has become of the context. -/
def DecidesAlone (reply : Reply Operation) : Prop :=
  IsDecisive False reply.result

instance (reply : Reply Operation) : Decidable (DecidesAlone reply) :=
  inferInstanceAs (Decidable (IsDecisive False reply.result))

variable (context : Context)

theorem decides_iff (number : Nat) (state : State) (timeline : Timeline) :
    waiter.Decides service context operation number state timeline ↔
      DecidesAlone (waiter.reply service operation number state) ∨
        (waiter.arrival service operation number state timeline).EndsBy context
          (waiter.wakeUp service operation number state timeline.now) := by
  unfold Decides DecidesAlone
  cases (waiter.reply service operation number state).result with
  | none => simp [IsDecisive]
  | some outcome => cases outcome <;> simp [IsDecisive]

def closing (number : Nat) (state : State) (timeline : Timeline) : Timeline :=
  let arrived := waiter.arrival service operation number state timeline
  if DecidesAlone (waiter.reply service operation number state) then arrived
  else (arrived.awaitEnd context
    (waiter.wakeUp service operation number state timeline.now)).2

theorem closing_succ (number : Nat) (state : State) (timeline : Timeline) :
    waiter.closing service operation context (number + 1) state timeline =
      waiter.closing service operation context number (waiter.answer service operation state).2
        (waiter.afterPause service operation state timeline) := by
  unfold closing
  rw [arrival_succ, after_pause_now]
  rfl

variable {waiter service operation context}

theorem poll_decided_timeline {state : State} {timeline : Timeline}
    (decides : waiter.Decides service context operation 0 state timeline)
    (started rounds attempt : Nat) :
    (waiter.poll service context operation started (rounds + 1) attempt state
      timeline).timeline = waiter.closing service operation context 0 state timeline := by
  rw [decides_iff] at decides
  rw [poll_succ]
  unfold closing
  cases result : (waiter.reply service operation 0 state).result with
  | none => simp [DecidesAlone, result, IsDecisive]
  | some outcome =>
      cases outcome with
      | error error => simp [DecidesAlone, result, IsDecisive]
      | ok current =>
          by_cases done : current.status = "DONE"
          · have finished : current.isDone = true := beq_iff_eq.2 done
            cases detail : current.error <;>
              simp [DecidesAlone, result, IsDecisive, done, finished, detail, succeed, Run.stop]
          · have running : current.isDone = false := beq_eq_false_iff_ne.2 done
            have undecided : ¬ DecidesAlone (waiter.reply service operation 0 state) := by
              simp [DecidesAlone, result, IsDecisive, done]
            obtain ⟨reason, after, ended, _⟩ :=
              Timeline.await_end_of_ends (decides.resolve_left undecided)
            simp [running, ended, undecided]

theorem poll_until_decision_timeline {number : Nat} {state : State} {timeline : Timeline}
    (decides : waiter.Decides service context operation number state timeline)
    (undecided : ∀ earlier < number,
      ¬ waiter.Decides service context operation earlier state timeline)
    {rounds : Nat} (observed : number < rounds) (started attempt : Nat) :
    (waiter.poll service context operation started rounds attempt state timeline).timeline =
      waiter.closing service operation context number state timeline := by
  induction number generalizing rounds state timeline attempt with
  | zero =>
      obtain ⟨rounds, rfl⟩ := Nat.exists_eq_add_one_of_ne_zero (Nat.ne_of_gt observed)
      exact poll_decided_timeline decides started rounds attempt
  | succ number ih =>
      obtain ⟨rounds, rfl⟩ := Nat.exists_eq_add_one_of_ne_zero
        (Nat.ne_of_gt (Nat.lt_of_le_of_lt (Nat.zero_le _) observed))
      obtain ⟨entries, _, goesOn⟩ := poll_undecided (undecided 0 (Nat.succ_pos _))
        started rounds attempt
      rw [decides_succ_iff] at decides
      -- Behind the first pause stands a wait of its own, with one reply less before the decision.
      rw [goesOn, Run.timeline_prepend, closing_succ]
      exact ih decides (undecided_behind undecided) (Nat.lt_of_succ_lt_succ observed) (attempt + 1)

variable {timeline : Timeline} {state : State} {ended : Nat}

theorem end_instant_at_arrival (waiter : Waiter) (service : Service State)
    (operation : String) (number : Nat) (state : State)
    (ends : timeline.endInstant? context = some ended) :
    (waiter.arrival service operation number state timeline).endInstant? context =
      some (max (waiter.arrivalInstant service operation number state timeline.now) ended) := by
  have fetched := fetch_instant_ge waiter service operation number state timeline.now
  have forward : timeline.now ≤
      waiter.arrivalInstant service operation number state timeline.now :=
    Nat.le_trans fetched (Nat.le_add_right _ _)
  rw [arrival, Timeline.end_instant_pass_to context forward, ends]
  rfl

theorem honest_at_arrival (honest : timeline.Honest context) (number : Nat) :
    ((waiter.arrival service operation number state timeline).observe context).1.isSome →
      ((waiter.arrival service operation number state timeline).fired? context).isSome :=
  honest (waiter.arrivalInstant service operation number state timeline.now)

/-- A reply is followed by the end of the context rather than by a fetch exactly if that end
comes before the fetch is due. -/
theorem ends_by_wake_up_iff (lasting : 0 < waiter.pause) (honest : timeline.Honest context)
    (ends : timeline.endInstant? context = some ended) {number : Nat}
    (untied : waiter.wakeUp service operation number state timeline.now ≠ ended) :
    (waiter.arrival service operation number state timeline).EndsBy context
        (waiter.wakeUp service operation number state timeline.now) ↔
      ended < waiter.wakeUp service operation number state timeline.now := by
  have arrived := arrival_now waiter service operation number state timeline
  have pause : waiter.arrivalInstant service operation number state timeline.now <
      waiter.wakeUp service operation number state timeline.now :=
    Nat.lt_add_of_pos_right lasting
  have later := end_instant_at_arrival waiter service operation number state ends
  rw [Timeline.ends_by_iff (by omega) (honest_at_arrival honest number) later (by omega)]
  omega

theorem closing_now_of_decides_alone {number : Nat}
    (alone : DecidesAlone (waiter.reply service operation number state)) :
    (waiter.closing service operation context number state timeline).now =
      waiter.arrivalInstant service operation number state timeline.now := by
  rw [closing]
  simp only [alone, if_true]
  exact arrival_now waiter service operation number state timeline

theorem closing_now_of_ended (honest : timeline.Honest context)
    (ends : timeline.endInstant? context = some ended) {number : Nat}
    (goesOn : ¬ DecidesAlone (waiter.reply service operation number state))
    (early : ended < waiter.wakeUp service operation number state timeline.now) :
    (waiter.closing service operation context number state timeline).now =
      max ended (waiter.arrivalInstant service operation number state timeline.now) := by
  have later := end_instant_at_arrival waiter service operation number state ends
  have pause : waiter.arrivalInstant service operation number state timeline.now ≤
      waiter.wakeUp service operation number state timeline.now := Nat.le_add_right _ _
  rw [closing]
  simp only [goesOn, if_false]
  rw [Timeline.await_end_now (honest_at_arrival honest number) later (by omega)]
  exact Nat.max_comm _ _

variable (waiter service operation context timeline state)

/-- Either some reply within the observed rounds is the first that decides, or none of them
decides. -/
theorem first_decision (rounds : Nat) :
    (∃ number < rounds, waiter.Decides service context operation number state timeline ∧
        ∀ earlier < number,
          ¬ waiter.Decides service context operation earlier state timeline) ∨
      ∀ number < rounds, ¬ waiter.Decides service context operation number state timeline := by
  induction rounds with
  | zero => exact Or.inr fun number before => absurd before (Nat.not_lt_zero number)
  | succ rounds ih =>
      rcases ih with ⟨number, before, first⟩ | undecided
      · exact Or.inl ⟨number, Nat.lt_succ_of_lt before, first⟩
      · by_cases decides : waiter.Decides service context operation rounds state timeline
        · exact Or.inl ⟨rounds, Nat.lt_succ_self rounds, decides, undecided⟩
        · right
          intro number before
          rcases Nat.lt_succ_iff_lt_or_eq.1 before with earlier | rfl
          · exact undecided number earlier
          · exact decides

/-- The calls of a wait are its fetches in turn, and no reply decides before the last of them. -/
theorem calls_of_wait (rounds : Nat) :
    ∃ count, count ≤ rounds ∧ (0 < rounds → 0 < count) ∧
      (waiter.wait service rounds context operation state timeline).calls =
        waiter.fetches service operation count state timeline.now ∧
      ∀ earlier, earlier + 1 < count →
        ¬ waiter.Decides service context operation earlier state timeline := by
  rw [calls_wait]
  rcases first_decision waiter service operation context timeline state rounds with
    ⟨number, observed, decides, undecided⟩ | undecided
  · obtain ⟨calls, _⟩ := poll_until_decision decides undecided observed timeline.now 1
    exact ⟨number + 1, observed, fun _ => Nat.succ_pos _, calls,
      fun earlier before => undecided earlier (Nat.lt_of_succ_lt_succ before)⟩
  · obtain ⟨calls, _⟩ := poll_without_decision undecided timeline.now 1
    exact ⟨rounds, Nat.le_refl _, id, calls,
      fun earlier before => undecided earlier (Nat.lt_of_succ_lt before)⟩

theorem wait_until_decision {number : Nat}
    (decides : waiter.Decides service context operation number state timeline)
    (undecided : ∀ earlier < number,
      ¬ waiter.Decides service context operation earlier state timeline)
    {rounds : Nat} (observed : number < rounds) :
    let run := waiter.wait service rounds context operation state timeline
    EndsWith context operation (waiter.reply service operation number state) run ∧
      run.timeline = waiter.closing service operation context number state timeline := by
  obtain ⟨_, ended⟩ := poll_until_decision decides undecided observed timeline.now 1
  have stopped := poll_until_decision_timeline decides undecided observed timeline.now 1
  exact ⟨ended, stopped⟩

variable {waiter service operation context timeline state}

/-- The last fetch before the end of a context, or the first fetch of all. -/
theorem exists_last_fetch (lasting : 0 < waiter.pause)
    (untied : ∀ number, waiter.wakeUp service operation number state timeline.now ≠ ended) :
    ∃ number, ended < waiter.wakeUp service operation number state timeline.now ∧
      ∀ earlier < number, waiter.wakeUp service operation earlier state timeline.now < ended := by
  -- Some fetch is due after the end, since every pause lasts. The first such one is meant.
  have overtaken : ∃ number,
      ended < waiter.wakeUp service operation number state timeline.now :=
    ⟨ended, number_le_wake_up waiter service operation lasting ended state timeline.now⟩
  refine ⟨Nat.find overtaken, Nat.find_spec overtaken, ?_⟩
  intro earlier before
  have notYet := Nat.find_min overtaken before
  have apart := untied earlier
  omega

theorem result_of_decides_alone {reply : Reply Operation} {run : Run State StewardError Unit}
    (alone : DecidesAlone reply) (ended : EndsWith context operation reply run) :
    run.result = reply.result.bind (verdict operation none) := by
  unfold DecidesAlone at alone
  unfold EndsWith at ended
  cases result : reply.result with
  | none =>
      rw [result] at ended
      exact ended
  | some outcome =>
      rw [result] at ended alone
      rw [ended.2]
      cases outcome with
      | error error => rfl
      | ok current =>
          have done : current.status = "DONE" := alone.resolve_right id
          simp [verdict, done]

/-- A reply that leaves the matter open ends a wait with what the context reports. -/
theorem result_of_goes_on {reply : Reply Operation} {run : Run State StewardError Unit}
    (goesOn : ¬ DecidesAlone reply) (ended : EndsWith context operation reply run) :
    ∃ reason, run.result = some (.error (.ended reason)) := by
  unfold DecidesAlone at goesOn
  unfold EndsWith at ended
  cases result : reply.result with
  | none =>
      rw [result] at goesOn
      exact absurd trivial goesOn
  | some outcome =>
      rw [result] at ended goesOn
      cases outcome with
      | error error => exact absurd trivial goesOn
      | ok current =>
          have running : current.status ≠ "DONE" := fun done => goesOn (Or.inl done)
          obtain ⟨isSome, made⟩ := ended
          simp only [verdict, running, if_false] at made
          cases report : (run.timeline.observe context).1 with
          | none =>
              rw [made, report] at isSome
              contradiction
          | some reason => exact ⟨reason, by rw [made, report]; rfl⟩

theorem calls_before_end (lasting : 0 < waiter.pause) (honest : timeline.Honest context)
    (ends : timeline.endInstant? context = some ended)
    (untied : ∀ number, waiter.wakeUp service operation number state timeline.now ≠ ended)
    (rounds : Nat) :
    ∀ call ∈ (waiter.wait service rounds context operation state timeline).calls.tail,
      call.2.2 < ended := by
  obtain ⟨count, _, _, calls, undecided⟩ :=
    calls_of_wait waiter service operation context timeline state rounds
  intro call member
  rw [calls] at member
  cases count with
  | zero => exact absurd member List.not_mem_nil
  | succ count =>
      rw [fetches, List.range_succ_eq_map, List.map_cons, List.tail_cons, List.map_map] at member
      obtain ⟨number, listed, rfl⟩ := List.mem_map.1 member
      have goesOn := undecided number (Nat.succ_lt_succ (List.mem_range.1 listed))
      rw [decides_iff, not_or, ends_by_wake_up_iff lasting honest ends (untied number)] at goesOn
      have apart := untied number
      change waiter.fetchInstant service operation (number + 1) state timeline.now < ended
      rw [← wake_up_eq_fetch_instant]
      omega

theorem returns_at_end (lasting : 0 < waiter.pause) (honest : timeline.Honest context)
    (ends : timeline.endInstant? context = some ended)
    (untied : ∀ number, waiter.wakeUp service operation number state timeline.now ≠ ended)
    {number : Nat} (early : ended < waiter.wakeUp service operation number state timeline.now)
    (before : ∀ earlier < number,
      waiter.wakeUp service operation earlier state timeline.now < ended)
    (goesOn : ∀ earlier ≤ number, ¬ DecidesAlone (waiter.reply service operation earlier state))
    {rounds : Nat} (observed : number < rounds) :
    let run := waiter.wait service rounds context operation state timeline
    (∃ reason, run.result = some (.error (.ended reason))) ∧
      run.timeline.now =
        max ended (waiter.arrivalInstant service operation number state timeline.now) := by
  have decides : waiter.Decides service context operation number state timeline := by
    rw [decides_iff, ends_by_wake_up_iff lasting honest ends (untied number)]
    exact Or.inr early
  have undecided : ∀ earlier < number,
      ¬ waiter.Decides service context operation earlier state timeline := by
    intro earlier sooner
    rw [decides_iff, ends_by_wake_up_iff lasting honest ends (untied earlier), not_or]
    exact ⟨goesOn earlier (Nat.le_of_lt sooner), Nat.lt_asymm (before earlier sooner)⟩
  have last := goesOn number (Nat.le_refl number)
  obtain ⟨ended', stopped⟩ := wait_until_decision waiter service operation context timeline state
    decides undecided observed
  refine ⟨result_of_goes_on last ended', ?_⟩
  rw [stopped, closing_now_of_ended honest ends last early]

/-- A reply that settles the matter is acted on when it arrives. -/
theorem returns_on_arrival {number rounds : Nat} (observed : number < rounds)
    (alone : DecidesAlone (waiter.reply service operation number state))
    (undecided : ∀ earlier < number,
      ¬ waiter.Decides service context operation earlier state timeline) :
    let run := waiter.wait service rounds context operation state timeline
    run.result = (waiter.reply service operation number state).result.bind
        (verdict operation none) ∧
      run.timeline.now = waiter.arrivalInstant service operation number state timeline.now := by
  have decides := (decides_iff waiter service operation context number state timeline).2
    (Or.inl alone)
  obtain ⟨ended, stopped⟩ := wait_until_decision waiter service operation context timeline
    state decides undecided observed
  refine ⟨result_of_decides_alone alone ended, ?_⟩
  rw [stopped]
  exact closing_now_of_decides_alone alone

/-- The end of a context comes between a fetch and the next one, and the wait returns there unless
a reply up to then settles the matter. -/
theorem returns_between_fetches (lasting : 0 < waiter.pause) (honest : timeline.Honest context)
    (ends : timeline.endInstant? context = some ended)
    (untied : ∀ number, waiter.wakeUp service operation number state timeline.now ≠ ended) :
    ∃ number,
      (number = 0 ∨ waiter.fetchInstant service operation number state timeline.now < ended) ∧
        ended < waiter.wakeUp service operation number state timeline.now ∧
          ((∀ earlier ≤ number, ¬ DecidesAlone (waiter.reply service operation earlier state)) →
            ∀ rounds, number < rounds →
              let run := waiter.wait service rounds context operation state timeline
              (∃ reason, run.result = some (.error (.ended reason))) ∧ run.timeline.now =
                max ended (waiter.arrivalInstant service operation number state timeline.now)) := by
  obtain ⟨number, early, before⟩ := exists_last_fetch lasting untied
  refine ⟨number, ?_, early, fun goesOn rounds observed =>
    returns_at_end lasting honest ends untied early before goesOn observed⟩
  cases number with
  | zero => exact Or.inl rfl
  | succ number =>
      have last := before number (Nat.lt_succ_self number)
      rw [wake_up_eq_fetch_instant] at last
      exact Or.inr last

end

end Waiter

namespace Timeline

def scheduleCancels (timeline : Timeline) (planned : List (Nat × Token)) : Timeline :=
  planned.foldl (fun timeline cancel => timeline.schedule cancel.1 (.token cancel.2)) timeline

end Timeline

namespace Context.Chronicle.Sound

/-- What is planned for tokens makes no context dishonest. -/
theorem honest_scheduled (planned : List (Nat × Token)) {chronicle : Chronicle}
    (sound : chronicle.Sound) {context : Context} (known : context ∈ chronicle.contexts) :
    (chronicle.timeline.scheduleCancels planned).Honest context := by
  induction planned generalizing chronicle with
  | nil => exact sound.honest known
  | cons cancel rest ih =>
      have anyToken : chronicle.KnowsTarget (.token cancel.2) := trivial
      exact ih (sound.schedule cancel.1 anyToken) known

end Context.Chronicle.Sound

/-- No context of a session reports an end before its cause, whatever the steps were. -/
theorem Context.honest_after_steps (steps : List Context.Step) {name : String} {context : Context}
    (named : (Context.Session.start.run steps).2.contexts.get? name = some context)
    (planned : List (Nat × Token)) :
    ((Context.Session.start.run steps).2.timeline.scheduleCancels planned).Honest context := by
  have told := Context.told_tell steps
  rw [Context.tell_session] at told
  have scheduled := told.sound.honest_scheduled planned (told.of_name named)
  rwa [told.timeline] at scheduled

namespace Waiter

variable {State : Type}

/-- A wait keeps time, whatever its context: a pause is the interval, raised to the least one, in
whole milliseconds; the first fetch is made at once and each other one a pause after the reply
before it; a reply that settles the matter is acted on when it arrives; and where the context ends
before that, the wait returns at its end, or with the reply on its way then or the first reply of
all, and no fetch but the first is made after that end. -/
theorem wait_keeps_time (base : Waiter) (interval : Nat) (service : Service State)
    (operation : String) (state : State) (steps : List Context.Step) (name : String)
    {context : Context}
    (named : (Context.Session.start.run steps).2.contexts.get? name = some context)
    (planned : List (Nat × Token)) :
    let waiter := base.withInterval interval
    let timeline := (Context.Session.start.run steps).2.timeline.scheduleCancels planned
    let reply := fun number => waiter.reply service operation number state
    let fetched := fun number => waiter.fetchInstant service operation number state timeline.now
    let arrived := fun number =>
      waiter.arrivalInstant service operation number state timeline.now
    let run := fun rounds => waiter.wait service rounds context operation state timeline
    (max interval leastInterval ≤ waiter.pause * 1000000 ∧
        waiter.pause * 1000000 < max interval leastInterval + 1000000) ∧
      fetched 0 = timeline.now ∧
      (∀ number, arrived number = fetched number + (reply number).took ∧
        fetched (number + 1) = arrived number + waiter.pause ∧
        fetched number + 10 ≤ fetched (number + 1)) ∧
      (∀ rounds, ∃ count, count ≤ rounds ∧ (0 < rounds → 0 < count) ∧
        (run rounds).calls = (List.range count).map fun number =>
          (waiter.project, .operation operation, fetched number)) ∧
      (∀ number rounds, number < rounds → DecidesAlone (reply number) →
        (∀ earlier < number,
          ¬ waiter.Decides service context operation earlier state timeline) →
        (run rounds).result = (reply number).result.bind (verdict operation none) ∧
          (run rounds).timeline.now = arrived number) ∧
      ∀ ended, timeline.endInstant? context = some ended →
        (∀ number, fetched (number + 1) ≠ ended) →
        (∀ rounds, ∀ call ∈ (run rounds).calls.tail, call.2.2 < ended) ∧
          ∃ number, (number = 0 ∨ fetched number < ended) ∧ ended < fetched (number + 1) ∧
            ((∀ earlier ≤ number, ¬ DecidesAlone (reply earlier)) →
              ∀ rounds, number < rounds →
                (∃ reason, (run rounds).result = some (.error (.ended reason))) ∧
                  (run rounds).timeline.now = max ended (arrived number)) := by
  intro waiter timeline reply fetched arrived run
  have least : 10 ≤ waiter.pause := pause_with_interval_ge base interval
  have lasting : 0 < waiter.pause := by omega
  have next (number : Nat) : waiter.wakeUp service operation number state timeline.now =
      fetched (number + 1) :=
    wake_up_eq_fetch_instant waiter service operation number state timeline.now
  refine ⟨pause_bounds waiter, rfl, ?_, ?_, ?_, ?_⟩
  · intro number
    have paused : fetched (number + 1) = arrived number + waiter.pause := (next number).symm
    have took : arrived number = fetched number + (reply number).took := rfl
    exact ⟨took, paused, by omega⟩
  · intro rounds
    obtain ⟨count, bounded, some, calls, _⟩ :=
      calls_of_wait waiter service operation context timeline state rounds
    exact ⟨count, bounded, some, calls⟩
  · intro number rounds observed alone undecided
    exact returns_on_arrival observed alone undecided
  · intro ended ends untied
    have honest : timeline.Honest context := Context.honest_after_steps steps named planned
    have apart (number : Nat) :
        waiter.wakeUp service operation number state timeline.now ≠ ended := by
      rw [next]
      exact untied number
    refine ⟨calls_before_end lasting honest ends apart, ?_⟩
    obtain ⟨number, last, early, returns⟩ := returns_between_fetches lasting honest ends apart
    exact ⟨number, last, next number ▸ early, returns⟩

def thirtyMilliseconds : List Context.Step :=
  [.newContext "a", .withTimeout "c" "a" 30]

def boundThirty : Context := ⟨⟨0, []⟩, some 30, 2⟩

/-- Its token is to be cancelled after twenty: in the second pause, since replies that take three
milliseconds come in at 3 and 16. -/
theorem cancelled_wait_keeps_time :
    (Context.Session.start.run thirtyMilliseconds).2.contexts.get? "c" = some boundThirty ∧
      ((Context.Session.start.run thirtyMilliseconds).2.timeline.scheduleCancels
        [(20, ⟨0, []⟩)]).endInstant? boundThirty = some 20 ∧
      ∀ rounds, ∀ call ∈ (hastyWaiter.wait Script.service rounds boundThirty "op" runningReplies
        ((Context.Session.start.run thirtyMilliseconds).2.timeline.scheduleCancels
          [(20, ⟨0, []⟩)])).calls.tail, call.2.2 < 20 := by
  have named : (Context.Session.start.run thirtyMilliseconds).2.contexts.get? "c" =
      some boundThirty := by decide
  have ends : ((Context.Session.start.run thirtyMilliseconds).2.timeline.scheduleCancels
      [(20, ⟨0, []⟩)]).endInstant? boundThirty = some 20 := by decide
  obtain ⟨_, _, _, _, _, onTime⟩ := wait_keeps_time (Waiter.new "p") 0 Script.service "op"
    runningReplies thirtyMilliseconds "c" named [(20, ⟨0, []⟩)]
  refine ⟨named, ends, (onTime 20 ends ?_).1⟩
  intro number
  change hastyWaiter.fetchInstant Script.service "op" (number + 1) runningReplies 0 ≠ 20
  rw [← wake_up_eq_fetch_instant]
  cases number with
  | zero => decide
  | succ number =>
      have second : 26 ≤ hastyWaiter.wakeUp Script.service "op" 1 runningReplies 0 := by decide
      have later := wake_up_mono hastyWaiter Script.service "op" (by decide)
        (show 1 ≤ number + 1 by omega) runningReplies 0
      omega

end Waiter

end CertSteward
