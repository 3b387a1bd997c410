import CertSteward.Proofs.Manager.Changes
import CertSteward.Proofs.Manager.Success

/-!
# What the calls of a project keep

A manager reaches the state of its service only by calls for its project. What
every such call keeps is kept by a wait, by a request and by a whole session.
-/

namespace CertSteward

set_option autoImplicit false

variable {State : Type} {service : Service State} {project : String} {holds : State → Prop}

def Service.Keeps (service : Service State) (project : String) (holds : State → Prop) : Prop :=
  ∀ rpc state, holds state → holds (service.call project rpc state).2

theorem slowed_keeps (keeps : service.Keeps project holds) (delay : String → Rpc → State → Nat) :
    (service.slowed delay).Keeps project holds := keeps

theorem poll_keeps {waiter : Waiter} (keeps : service.Keeps waiter.project holds)
    (context : Context) (operation : String) (started rounds attempt : Nat) {state : State}
    (before : holds state) (timeline : Timeline) :
    holds (waiter.poll service context operation started rounds attempt state timeline).state := by
  induction rounds generalizing attempt state timeline with
  | zero => exact before
  | succ rounds ih =>
      have after : holds (waiter.answer service operation state).2 := keeps _ state before
      rw [Waiter.poll_succ]
      dsimp only
      split
      · exact after
      · exact after
      · split
        · split <;> exact after
        · split
          · exact after
          · exact ih _ after _

namespace Manager

variable {manager : Manager}

theorem settle_keeps (keeps : service.Keeps manager.waiter.project holds) (rounds : Nat)
    (context : Context) {sent : Run State ApiError Operation} (before : holds sent.state) :
    holds (manager.settle service rounds context sent).state := by
  rw [settle_eq]
  split
  · exact before
  · exact before
  · exact poll_keeps keeps context _ _ rounds 1 before _

/-- A request keeps what every call for the project keeps. -/
theorem perform_keeps (built : Built project manager) (keeps : service.Keeps project holds)
    (rounds : Nat) (request : Request) (context : Context) {state : State} (before : holds state)
    (timeline : Timeline) :
    holds (manager.perform service rounds request context state timeline).state := by
  obtain ⟨owned, waited⟩ := built.projects
  have after (rpc : Rpc) : holds (service.call manager.project rpc state).2 :=
    owned ▸ keeps rpc state before
  have waits : service.Keeps manager.waiter.project holds := waited ▸ keeps
  cases request with
  | create name domains => exact settle_keeps waits rounds context (after _)
  | delete name => exact settle_keeps waits rounds context (after _)
  | isPresent name =>
      change holds (manager.isPresent service name state timeline).state
      unfold isPresent
      dsimp only
      split
      · split <;> exact after _
      · exact after _
      · exact after _
  | get name => exact after _
  | list => exact after _

/-- Whatever calls are made of a manager, in whatever contexts. -/
theorem calls_keep (built : Built project manager) (keeps : service.Keeps project holds)
    (rounds : Nat) (calls : List Call) (session : Session State) (before : holds session.state) :
    ∀ step ∈ session.calls manager service rounds calls, holds step.2 := by
  induction calls generalizing session with
  | nil => intro step member; contradiction
  | cons call rest ih =>
      intro step member
      have after : holds (session.call manager service rounds call).2.state :=
        perform_keeps built keeps rounds call.request _ before _
      obtain rfl | later := List.mem_cons.mp member
      · exact after
      · exact ih _ after step later

end Manager

end CertSteward
