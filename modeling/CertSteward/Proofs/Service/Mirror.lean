import CertSteward.Manager
import CertSteward.Proofs.Service.Trace
import CertSteward.Proofs.Waiter.Outcome

/-!
# Services that answer alike

A service may keep more than another one and still answer as it does. Runs over
the two are then the same, but for what the first one keeps besides.
-/

namespace CertSteward

set_option autoImplicit false

variable {State Other Error α : Type}

def Run.seen (view : State → Other) (run : Run State Error α) : Run Other Error α :=
  ⟨run.trace, run.result, view run.state, run.timeline⟩

theorem Run.seen_prepend (view : State → Other) (entries : List TraceEntry)
    (run : Run State Error α) :
    (run.prepend entries).seen view = (run.seen view).prepend entries := rfl

/-- Whether a service answers as another one does in what can be seen of its state. -/
def Service.Mirrors (service : Service State) (other : Service Other) (view : State → Other) :
    Prop :=
  ∀ project rpc state,
    (service.call project rpc state).1 = (other.call project rpc (view state)).1 ∧
      view (service.call project rpc state).2 = (other.call project rpc (view state)).2

def Service.slowed (service : Service State) (delay : String → Rpc → State → Nat) :
    Service State :=
  ⟨fun project rpc state =>
    let (reply, next) := service.call project rpc state
    (⟨reply.result, reply.took + delay project rpc state, reply.log⟩, next)⟩

section

variable {service : Service State} {other : Service Other} {view : State → Other}

theorem slowed_mirrors (mirrors : service.Mirrors other view)
    (delay : String → Rpc → Other → Nat) :
    (service.slowed fun project rpc state => delay project rpc (view state)).Mirrors
      (other.slowed delay) view := by
  intro project rpc state
  obtain ⟨replies, states⟩ := mirrors project rpc state
  simp only [Service.slowed, replies, states, and_self]

theorem perform_mirrored (mirrors : service.Mirrors other view) (project : String) (rpc : Rpc)
    (state : State) (timeline : Timeline) :
    (service.perform project rpc state timeline).seen view =
      other.perform project rpc (view state) timeline := by
  obtain ⟨replies, states⟩ := mirrors project rpc state
  simp only [Run.seen, Service.perform, replies, states]

theorem poll_mirrored (mirrors : service.Mirrors other view) (waiter : Waiter)
    (context : Context) (operation : String) (started rounds attempt : Nat) (state : State)
    (timeline : Timeline) :
    (waiter.poll service context operation started rounds attempt state timeline).seen view =
      waiter.poll other context operation started rounds attempt (view state) timeline := by
  induction rounds generalizing attempt state timeline with
  | zero => rfl
  | succ rounds ih =>
      obtain ⟨replies, states⟩ := mirrors waiter.project (.operation operation) state
      have reply : waiter.reply service operation 0 state =
          waiter.reply other operation 0 (view state) := replies
      have next : view (waiter.answer service operation state).2 =
          (waiter.answer other operation (view state)).2 := states
      have arrival : waiter.arrival service operation 0 state timeline =
          waiter.arrival other operation 0 (view state) timeline := by
        simp only [Waiter.arrival, Waiter.arrivalInstant, Waiter.fetchInstant, reply]
      have wakeUp : waiter.wakeUp service operation 0 state timeline.now =
          waiter.wakeUp other operation 0 (view state) timeline.now := by
        simp only [Waiter.wakeUp, Waiter.arrivalInstant, Waiter.fetchInstant, reply]
      have before : waiter.fetchEntries service operation attempt state timeline =
          waiter.fetchEntries other operation attempt (view state) timeline := by
        simp only [Waiter.fetchEntries, Service.perform, replies]
      simp only [Waiter.poll_succ, reply, arrival, wakeUp, before]
      cases result : (waiter.reply other operation 0 (view state)).result with
      | none => simp only [Run.seen, next]
      | some outcome =>
          cases outcome with
          | error error =>
              exact congrArg (fun last => Run.prepend _ (Waiter.fail _ _ _ last _)) next
          | ok current =>
              dsimp only
              split
              · split
                · exact congrArg (fun last => Run.prepend _ (Waiter.succeed _ _ _ last _)) next
                · exact congrArg (fun last => Run.prepend _ (Waiter.fail _ _ _ last _)) next
              · split
                · exact congrArg (fun last => Run.prepend _ (Waiter.fail _ _ _ last _)) next
                · rw [Run.seen_prepend, ih, next]

theorem wait_mirrored (mirrors : service.Mirrors other view) (waiter : Waiter)
    (rounds : Nat) (context : Context) (operation : String) (state : State)
    (timeline : Timeline) :
    (waiter.wait service rounds context operation state timeline).seen view =
      waiter.wait other rounds context operation (view state) timeline :=
  congrArg (Run.prepend _)
    (poll_mirrored mirrors waiter context operation timeline.now rounds 1 state timeline)

theorem settle_mirrored (mirrors : service.Mirrors other view) (manager : Manager)
    (rounds : Nat) (context : Context) (change : Run State ApiError Operation) :
    (manager.settle service rounds context change).seen view =
      manager.settle other rounds context (change.seen view) := by
  obtain ⟨trace, result, state, timeline⟩ := change
  cases result with
  | none => rfl
  | some outcome =>
      cases outcome with
      | error error => rfl
      | ok operation =>
          exact congrArg (Run.prepend trace)
            (wait_mirrored mirrors manager.waiter rounds context operation.name state timeline)

theorem create_mirrored (mirrors : service.Mirrors other view) (manager : Manager)
    (rounds : Nat) (context : Context) (name : String) (domains : List String) (state : State)
    (timeline : Timeline) :
    (manager.create service rounds context name domains state timeline).seen view =
      manager.create other rounds context name domains (view state) timeline := by
  have asked := perform_mirrored mirrors manager.project (.insert (.forDomains name domains)) state
    timeline
  have settled := (settle_mirrored mirrors manager rounds context _).trans
    (congrArg (manager.settle other rounds context) asked)
  exact congrArg (Run.prepend _) settled

theorem delete_mirrored (mirrors : service.Mirrors other view) (manager : Manager)
    (rounds : Nat) (context : Context) (name : String) (state : State)
    (timeline : Timeline) :
    (manager.delete service rounds context name state timeline).seen view =
      manager.delete other rounds context name (view state) timeline := by
  have asked := perform_mirrored mirrors manager.project (.delete name) state
    timeline
  have settled := (settle_mirrored mirrors manager rounds context _).trans
    (congrArg (manager.settle other rounds context) asked)
  exact congrArg (Run.prepend _) settled

end

end CertSteward
