import CertSteward.Proofs.Waiter.Reporting

/-!
# Giving up sooner

Two waits that differ in their contexts alone make the same fetches and report
the same replies for as long as neither of them is given up. The wait whose
context ends sooner is cut short by that at most; if it is not given up, the
two are the same.
-/

namespace CertSteward

set_option autoImplicit false

variable {State : Type}

namespace Timeline

variable {timeline : Timeline} {context : Context} {instant : Nat}

theorem never_fired (never : timeline.endInstant? context = none) :
    (timeline.fired? context).isSome = false := by
  rw [Bool.eq_false_iff]
  intro fired
  rw [end_instant_of_fired fired] at never
  contradiction

/-- A context without an end does not end by any instant. -/
theorem not_ends_by_of_never (forward : timeline.now ≤ instant)
    (honest : (timeline.observe context).1.isSome → (timeline.fired? context).isSome)
    (never : timeline.endInstant? context = none) : ¬ timeline.EndsBy context instant := by
  have after : (timeline.passTo instant).endInstant? context = none := by
    rw [end_instant_pass_to context forward, never]
    rfl
  unfold EndsBy
  rintro (reported | fired)
  · rw [never_fired never] at honest
    exact absurd (honest reported) Bool.false_ne_true
  · rw [never_fired after] at fired
    contradiction

/-- Whether a context ends no later than another one does on a timeline of its own, if that one
ends at all. -/
def EndsNoLater (early : Timeline) (sooner : Context) (late : Timeline) (later : Context) : Prop :=
  ∀ instant, late.endInstant? later = some instant →
    ∃ ended ≤ instant, early.endInstant? sooner = some ended

end Timeline

/-- Whether a context has come about on a timeline by steps of a session, with cancellations of
tokens planned on top of those that the steps have set. -/
def Context.Arises (context : Context) (timeline : Timeline) : Prop :=
  ∃ steps name planned,
    (Context.Session.start.run steps).2.contexts.get? name = some context ∧
      timeline = (Context.Session.start.run steps).2.timeline.scheduleCancels planned

theorem Context.Arises.honest {context : Context} {timeline : Timeline}
    (arises : context.Arises timeline) : timeline.Honest context := by
  obtain ⟨steps, name, planned, named, rfl⟩ := arises
  have told := Context.told_tell steps
  rw [Context.tell_session] at told
  have scheduled := told.sound.honest_scheduled planned (told.of_name named)
  rw [told.timeline] at scheduled
  exact scheduled

def ProgressEvent.isPolling : ProgressEvent → Bool
  | .polling .. => true
  | _ => false

def TraceEntry.pollsIn (entries : List TraceEntry) : List ProgressEvent :=
  (entries.filterMap TraceEntry.event?).filter ProgressEvent.isPolling

def Run.polls {Error α : Type} (run : Run State Error α) : List ProgressEvent :=
  run.events.filter ProgressEvent.isPolling

theorem TraceEntry.polls_in_append (earlier later : List TraceEntry) :
    pollsIn (earlier ++ later) = pollsIn earlier ++ pollsIn later := by
  simp [pollsIn]

theorem flat_map_range_of_le {α : Type} {fewer more : Nat} (ordered : fewer ≤ more)
    (visit : Nat → List α) :
    (List.range fewer).flatMap visit <+: (List.range more).flatMap visit := by
  obtain ⟨rest, rfl⟩ := Nat.exists_eq_add_of_le ordered
  rw [List.range_add, List.flatMap_append]
  exact List.prefix_append _ _

namespace Waiter

section

variable (waiter : Waiter) (service : Service State) (operation : String)

theorem wait_polls (rounds : Nat) (context : Context) (state : State) (timeline : Timeline) :
    let run := waiter.wait service rounds context operation state timeline
    run.polls = (List.range run.calls.length).flatMap fun number =>
      TraceEntry.pollsIn
        (waiter.visit service operation timeline.now 1 state timeline.now number) := by
  intro run
  have announced : TraceEntry.pollsIn (waiter.event (.started operation)) = [] := by
    unfold Waiter.event
    split <;> rfl
  have closed (elapsed : Nat) (result : Option (Except StewardError Unit)) :
      TraceEntry.pollsIn (waiter.closingEntries operation elapsed result) = [] := by
    unfold closingEntries failureEntries Waiter.event
    split
    · rfl
    · split <;> rfl
    · split <;> rfl
  have whole : run.polls = TraceEntry.pollsIn run.trace := rfl
  rw [whole, (waiter.wait_trace service operation rounds context state timeline).1,
    TraceEntry.polls_in_append, TraceEntry.polls_in_append, announced, closed, List.nil_append,
    List.append_nil, TraceEntry.pollsIn, List.filterMap_flatMap, List.filter_flatMap]
  rfl

theorem fetches_begin_alike {fewer more : Nat} (ordered : fewer ≤ more) (state : State)
    (started : Nat) :
    waiter.fetches service operation fewer state started <+:
      waiter.fetches service operation more state started := by
  obtain ⟨rest, rfl⟩ := Nat.exists_eq_add_of_le ordered
  rw [fetches, fetches, List.range_add, List.map_append]
  exact List.prefix_append _ _

theorem poll_without_decision_now {context : Context} {rounds : Nat} {state : State}
    {timeline : Timeline}
    (undecided : ∀ number < rounds,
      ¬ waiter.Decides service context operation number state timeline)
    (started attempt : Nat) :
    (waiter.poll service context operation started rounds attempt state timeline).timeline.now =
      waiter.fetchInstant service operation rounds state timeline.now := by
  induction rounds generalizing state timeline attempt with
  | zero => rfl
  | succ rounds ih =>
      obtain ⟨entries, _, goesOn⟩ := poll_undecided (undecided 0 (Nat.succ_pos _))
        started rounds attempt
      rw [goesOn, Run.timeline_prepend, ih (undecided_behind undecided), after_pause_now]
      rfl

end

section

variable {waiter : Waiter} {service : Service State} {operation : String} {state : State}
  {sooner later : Context} {early late : Timeline}

def YieldsFirst (waiter : Waiter) (service : Service State) (operation : String) (state : State)
    (sooner : Context) (early : Timeline) (later : Context) (late : Timeline) : Prop :=
  ∀ number, (∀ earlier < number, ¬ waiter.Decides service sooner operation earlier state early) →
    waiter.Decides service later operation number state late →
      waiter.Decides service sooner operation number state early

theorem undecided_of_yields_first
    (yields : waiter.YieldsFirst service operation state sooner early later late) {count : Nat}
    (undecided : ∀ number < count,
      ¬ waiter.Decides service sooner operation number state early) :
    ∀ number < count, ¬ waiter.Decides service later operation number state late := by
  intro number before decides
  apply undecided number before
  exact yields number (fun earlier sooner => undecided earlier (Nat.lt_trans sooner before)) decides

theorem fewer_calls
    (yields : waiter.YieldsFirst service operation state sooner early later late) (rounds : Nat) :
    (waiter.wait service rounds sooner operation state early).calls.length ≤
      (waiter.wait service rounds later operation state late).calls.length := by
  rcases first_decision waiter service operation sooner early state rounds with
    ⟨number, observed, decides, undecided⟩ | undecided
  · rw [calls_until_decision decides undecided observed, fetches_length]
    rcases first_decision waiter service operation later late state rounds with
      ⟨other, within, decidesLater, undecidedLater⟩ | undecidedLater
    · rw [calls_until_decision decidesLater undecidedLater within, fetches_length]
      have notBefore : ¬ other < number := fun before =>
        undecided_of_yields_first yields undecided other before decidesLater
      omega
    · rw [(wait_without_decision undecidedLater).1, fetches_length]
      exact observed
  · have undecidedLater := undecided_of_yields_first yields undecided
    rw [(wait_without_decision undecided).1, (wait_without_decision undecidedLater).1,
      fetches_length, fetches_length]

theorem calls_begin_alike (sameClock : early.now = late.now)
    (yields : waiter.YieldsFirst service operation state sooner early later late) (rounds : Nat) :
    (waiter.wait service rounds sooner operation state early).calls <+:
      (waiter.wait service rounds later operation state late).calls := by
  rw [(waiter.wait_trace service operation rounds sooner state early).2,
    (waiter.wait_trace service operation rounds later state late).2, sameClock]
  exact waiter.fetches_begin_alike service operation (fewer_calls yields rounds) state late.now

theorem polls_begin_alike (sameClock : early.now = late.now)
    (yields : waiter.YieldsFirst service operation state sooner early later late) (rounds : Nat) :
    (waiter.wait service rounds sooner operation state early).polls <+:
      (waiter.wait service rounds later operation state late).polls := by
  rw [wait_polls, wait_polls, sameClock]
  exact flat_map_range_of_le (fewer_calls yields rounds) _

/-- Waits of the same length, the same end and the same result have left the same trace. -/
theorem same_trace {rounds : Nat} (sameClock : early.now = late.now)
    (sameCalls : (waiter.wait service rounds later operation state late).calls =
      (waiter.wait service rounds sooner operation state early).calls)
    (sameEnd : (waiter.wait service rounds later operation state late).timeline.now =
      (waiter.wait service rounds sooner operation state early).timeline.now)
    (sameResult : (waiter.wait service rounds later operation state late).result =
      (waiter.wait service rounds sooner operation state early).result) :
    (waiter.wait service rounds later operation state late).trace =
      (waiter.wait service rounds sooner operation state early).trace := by
  rw [(waiter.wait_trace service operation rounds sooner state early).1,
    (waiter.wait_trace service operation rounds later state late).1, sameCalls, sameEnd,
    sameResult, sameClock]

/-- A wait that its context does not end is the wait with any context that would end later. -/
theorem same_unless_given_up (sameClock : early.now = late.now)
    (yields : waiter.YieldsFirst service operation state sooner early later late) {rounds : Nat}
    (keptUp : ∀ reason, (waiter.wait service rounds sooner operation state early).result ≠
      some (.error (.ended reason))) :
    let first := waiter.wait service rounds sooner operation state early
    let second := waiter.wait service rounds later operation state late
    second.result = first.result ∧ second.timeline.now = first.timeline.now ∧
      second.trace = first.trace := by
  intro first second
  have alike : second.calls = first.calls ∧ second.result = first.result ∧
      second.timeline.now = first.timeline.now := by
    rcases first_decision waiter service operation sooner early state rounds with
      ⟨number, observed, decides, undecided⟩ | undecided
    · obtain ⟨ended, stopped⟩ := wait_until_decision waiter service operation sooner early state
        decides undecided observed
      have alone : DecidesAlone (waiter.reply service operation number state) := by
        by_contra goesOn
        obtain ⟨reason, made⟩ := result_of_goes_on goesOn ended
        exact keptUp reason made
      have undecidedLater := undecided_of_yields_first yields undecided
      have decidesLater := (decides_iff waiter service operation later number state late).2
        (Or.inl alone)
      obtain ⟨endedLater, stoppedLater⟩ := wait_until_decision waiter service operation later late
        state decidesLater undecidedLater observed
      refine ⟨?_, ?_, ?_⟩
      · rw [calls_until_decision decidesLater undecidedLater observed,
          calls_until_decision decides undecided observed, sameClock]
      · rw [result_of_decides_alone alone endedLater, result_of_decides_alone alone ended]
      · rw [stoppedLater, stopped, closing_now_of_decides_alone alone,
          closing_now_of_decides_alone alone, sameClock]
    · have undecidedLater := undecided_of_yields_first yields undecided
      obtain ⟨calls, result⟩ := wait_without_decision undecided
      obtain ⟨callsLater, resultLater⟩ := wait_without_decision undecidedLater
      have now := waiter.poll_without_decision_now service operation undecided early.now 1
      have nowLater := waiter.poll_without_decision_now service operation undecidedLater late.now 1
      refine ⟨?_, resultLater.trans result.symm, ?_⟩
      · rw [calls, callsLater, sameClock]
      · exact nowLater.trans (by rw [← sameClock]; exact now.symm)
  obtain ⟨sameCalls, sameResult, sameEnd⟩ := alike
  exact ⟨sameResult, sameEnd, same_trace sameClock sameCalls sameEnd sameResult⟩

/-- Whether a context ends at the instant of no fetch, of those that a wait may come to. -/
def Untied (waiter : Waiter) (service : Service State) (operation : String) (state : State)
    (context : Context) (timeline : Timeline) : Prop :=
  ∀ ended, timeline.endInstant? context = some ended →
    ∀ number,
      (∀ earlier ≤ number, ¬ DecidesAlone (waiter.reply service operation earlier state)) →
        waiter.fetchInstant service operation (number + 1) state timeline.now ≠ ended

theorem not_ends_by_wake_up_of_never {context : Context} {timeline : Timeline}
    (honest : timeline.Honest context) (never : timeline.endInstant? context = none)
    (number : Nat) :
    ¬ (waiter.arrival service operation number state timeline).EndsBy context
      (waiter.wakeUp service operation number state timeline.now) := by
  have arrived := arrival_now waiter service operation number state timeline
  have forward : timeline.now ≤
      waiter.arrivalInstant service operation number state timeline.now :=
    Nat.le_trans (fetch_instant_ge waiter service operation number state timeline.now)
      (Nat.le_add_right _ _)
  apply Timeline.not_ends_by_of_never
  · rw [arrived]
    exact Nat.le_add_right _ _
  · exact honest_at_arrival honest number
  · rw [arrival, Timeline.end_instant_pass_to context forward, never]
    rfl

/-- If a context ends no later than another one, its wait is over no later. -/
theorem yields_first_of_sooner_end (lasting : 0 < waiter.pause)
    (soonerHonest : early.Honest sooner) (laterHonest : late.Honest later)
    (sameClock : early.now = late.now) (ordered : early.EndsNoLater sooner late later)
    (soonerUntied : waiter.Untied service operation state sooner early)
    (laterUntied : waiter.Untied service operation state later late) :
    waiter.YieldsFirst service operation state sooner early later late := by
  intro number undecided decides
  rw [decides_iff] at decides ⊢
  by_cases alone : DecidesAlone (waiter.reply service operation number state)
  · exact Or.inl alone
  · right
    have ends := decides.resolve_left alone
    -- The wait may come to the fetch after this reply, since no reply up to it settles the matter.
    have reached : ∀ earlier ≤ number,
        ¬ DecidesAlone (waiter.reply service operation earlier state) := by
      intro earlier upTo settled
      rcases Nat.lt_or_eq_of_le upTo with before | rfl
      · exact undecided earlier before ((decides_iff _ _ _ _ _ _ _).2 (Or.inl settled))
      · exact alone settled
    cases found : late.endInstant? later with
    | none => exact absurd ends (not_ends_by_wake_up_of_never laterHonest found number)
    | some instant =>
        obtain ⟨ended, notAfter, foundSooner⟩ := ordered instant found
        have apart := laterUntied instant found number reached
        have soonerApart := soonerUntied ended foundSooner number reached
        rw [← wake_up_eq_fetch_instant] at apart soonerApart
        rw [ends_by_wake_up_iff lasting laterHonest found apart] at ends
        rw [ends_by_wake_up_iff lasting soonerHonest foundSooner soonerApart, sameClock]
        exact Nat.lt_of_le_of_lt notAfter ends

end

theorem first_call_of_wait (waiter : Waiter) (service : Service State) (operation : String)
    {rounds : Nat} (observed : 0 < rounds) (context : Context) (state : State)
    (timeline : Timeline) :
    (waiter.wait service rounds context operation state timeline).calls.head? =
      some (waiter.project, .operation operation, timeline.now) := by
  obtain ⟨count, _, some, calls, _⟩ :=
    calls_of_wait waiter service operation context timeline state rounds
  obtain ⟨more, rfl⟩ := Nat.exists_eq_add_one_of_ne_zero (Nat.ne_of_gt (some observed))
  rw [calls, fetches_succ]
  rfl

/-- A cancellation or a deadline cuts a wait short and does nothing else to it. Of two contexts on
which the same wait is made at the same instant, let one end no later than the other: its wait makes
the first fetches of the other one at the same instants and reports the same replies to them, and
at least one; and unless it is given up, it is the other wait to the end. -/
theorem sooner_end_truncates_wait (base : Waiter) (interval : Nat) (service : Service State)
    (operation : String) (state : State) {sooner later : Context} {early late : Timeline}
    (soonerArises : sooner.Arises early) (laterArises : later.Arises late)
    (sameClock : early.now = late.now) (ordered : early.EndsNoLater sooner late later)
    (soonerUntied : (base.withInterval interval).Untied service operation state sooner early)
    (laterUntied : (base.withInterval interval).Untied service operation state later late)
    (rounds : Nat) :
    let waiter := base.withInterval interval
    let first := waiter.wait service rounds sooner operation state early
    let second := waiter.wait service rounds later operation state late
    first.calls <+: second.calls ∧
      first.polls <+: second.polls ∧
      (0 < rounds →
        first.calls.head? = some (waiter.project, .operation operation, early.now) ∧
          second.calls.head? = some (waiter.project, .operation operation, early.now)) ∧
      ((∀ reason, first.result ≠ some (.error (.ended reason))) →
        second.result = first.result ∧ second.timeline.now = first.timeline.now ∧
          second.trace = first.trace) := by
  intro waiter first second
  have least : 10 ≤ waiter.pause := pause_with_interval_ge base interval
  have lasting : 0 < waiter.pause := by omega
  have yields : waiter.YieldsFirst service operation state sooner early later late :=
    yields_first_of_sooner_end lasting soonerArises.honest laterArises.honest sameClock ordered
      soonerUntied laterUntied
  refine ⟨calls_begin_alike sameClock yields rounds, polls_begin_alike sameClock yields rounds, ?_,
    same_unless_given_up sameClock yields⟩
  intro observed
  have head := waiter.first_call_of_wait service operation observed later state late
  rw [← sameClock] at head
  exact ⟨waiter.first_call_of_wait service operation observed sooner state early, head⟩

def boundTimeline (planned : List (Nat × Token)) : Timeline :=
  (Context.Session.start.run thirtyMilliseconds).2.timeline.scheduleCancels planned

theorem bound_thirty_arises (planned : List (Nat × Token)) :
    boundThirty.Arises (boundTimeline planned) :=
  ⟨thirtyMilliseconds, "c", planned, by decide, rfl⟩

/-- The replies come in at 3 and 16, and the fetches are due at 13, 26 and not before 39. -/
theorem untied_at {planned : List (Nat × Token)} {ended : Nat}
    (ends : (boundTimeline planned).endInstant? boundThirty = some ended)
    (now : (boundTimeline planned).now = 0)
    (apart : ended ≠ 13 ∧ ended ≠ 26 ∧ ended < 39) :
    hastyWaiter.Untied Script.service "op" runningReplies boundThirty (boundTimeline planned) := by
  intro instant found number _
  rw [ends] at found
  rw [← Option.some.inj found, ← wake_up_eq_fetch_instant, now]
  have first : hastyWaiter.wakeUp Script.service "op" 0 runningReplies 0 = 13 := by decide
  have second : hastyWaiter.wakeUp Script.service "op" 1 runningReplies 0 = 26 := by decide
  have third : hastyWaiter.wakeUp Script.service "op" 2 runningReplies 0 = 39 := by decide
  match number with
  | 0 => omega
  | 1 => omega
  | number + 2 =>
      have later := wake_up_mono hastyWaiter Script.service "op" (by decide)
        (show 2 ≤ number + 2 by omega) runningReplies 0
      omega

/-- A cancellation after twenty milliseconds against the deadline after thirty: the third fetch is
not made. -/
theorem cancelled_wait_is_truncated :
    let first := hastyWaiter.wait Script.service 5 boundThirty "op" runningReplies
      (boundTimeline [(20, ⟨0, []⟩)])
    let second := hastyWaiter.wait Script.service 5 boundThirty "op" runningReplies
      (boundTimeline [])
    first.calls.length = 2 ∧ second.calls.length = 3 ∧ first.calls <+: second.calls := by
  have soonerEnds : (boundTimeline [(20, ⟨0, []⟩)]).endInstant? boundThirty = some 20 := by decide
  have laterEnds : (boundTimeline []).endInstant? boundThirty = some 30 := by decide
  have ordered : (boundTimeline [(20, ⟨0, []⟩)]).EndsNoLater boundThirty (boundTimeline [])
      boundThirty := by
    intro instant found
    rw [laterEnds] at found
    cases found
    exact ⟨20, by decide, soonerEnds⟩
  obtain ⟨calls, _⟩ := sooner_end_truncates_wait (Waiter.new "p") 0 Script.service "op"
    runningReplies (bound_thirty_arises _) (bound_thirty_arises _) (by decide) ordered
    (untied_at soonerEnds (by decide) (by decide)) (untied_at laterEnds (by decide) (by decide)) 5
  exact ⟨by decide, by decide, calls⟩

end Waiter

end CertSteward
