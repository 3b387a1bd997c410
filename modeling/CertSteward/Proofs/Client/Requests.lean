import CertSteward.Proofs.Client.Outcomes

/-!
# The requests that a client makes

The calls for a project make the requests of their resources and those of the
pages of a listing, and no others. They all show what the client shows, and go
to addresses under the one that the client was made with.
-/

namespace CertSteward

set_option autoImplicit false

open CertSteward.Http (Transport Request Answer)
open CertSteward.Json (Decoder)

variable {State α : Type}

structure Http.Request.Under (request : Request) (base : Url) (project : String) : Prop where
  scheme : request.url.scheme = base.scheme
  authority : request.url.authority = base.authority
  path : ∃ names, request.url.path = (base.extend (["projects", project, "global"] ++ names)).path

namespace Client

variable {client : Client} {transport : Transport State} {project : String} {holds : State → Prop}

inductive Makes (client : Client) (project : String) : Request → Prop where
  | call (rpc : Rpc) : Makes client project (client.requestFor project rpc)
  | page (pageToken : Option String) :
      Makes client project (client.request .get (client.pageUrl project pageToken) none)

variable {request : Request}

theorem Makes.authorization (makes : client.Makes project request) :
    request.authorization = client.authorization := by
  cases makes <;> rfl

theorem resource_authority (client : Client) (project : String) (names : List String) :
    (client.resourceUrl project names).authority = client.baseUrl.authority := by
  unfold resourceUrl Url.extend
  split <;> rfl

theorem Makes.under (makes : client.Makes project request) :
    request.Under client.baseUrl project := by
  cases makes with
  | call rpc =>
      exact ⟨resource_scheme client project _, resource_authority client project _, _, rfl⟩
  | page pageToken =>
      obtain ⟨query, beside⟩ := page_beside_query client project pageToken
      rw [beside]
      exact ⟨resource_scheme client project _, resource_authority client project _, _, rfl⟩

/-- Whether a transport keeps what holds of its state at every request of a client. -/
def KeptBy (client : Client) (project : String) (transport : Transport State)
    (holds : State → Prop) : Prop :=
  ∀ request, client.Makes project request → ∀ state, holds state →
    holds (transport.exchange request state).2

theorem send_keeps (kept : client.KeptBy project transport holds) (decoder : Decoder α)
    (makes : client.Makes project request) {state : State} (before : holds state) :
    holds (send transport decoder request state).2.2 := by
  unfold send
  split
  · exact kept request makes state before
  · exact before

theorem list_from_keeps (kept : client.KeptBy project transport holds) (rounds : Nat)
    (pageToken : Option String) (gathered : List Certificate) {state : State}
    (before : holds state) :
    holds (client.listFrom transport project rounds pageToken gathered state).2 := by
  induction rounds generalizing pageToken gathered state with
  | zero => exact before
  | succ rounds ih =>
      have after := send_keeps kept CertificateList.decoder (.page pageToken) before
      rw [listFrom]
      dsimp only
      split
      · exact after
      · split
        · exact after
        · exact after
        · exact ih _ _ after

/-- What every request of a client keeps is kept by its calls. -/
theorem call_keeps (kept : client.KeptBy project transport holds) (rounds : Nat) (rpc : Rpc)
    {state : State} (before : holds state) :
    holds (client.call transport rounds project rpc state).2 := by
  by_cases listing : rpc = .list
  · subst listing
    exact list_from_keeps kept rounds none [] before
  · rw [call_eq_single client transport rounds project listing]
    exact send_keeps kept rpc.decoder (.call rpc) before

/-- A record of exchanges grows by requests of the client alone. -/
theorem record_kept (client : Client) (project : String) (transport : Transport State) :
    client.KeptBy project transport.recorded
      fun state => ∀ exchange ∈ state.2, client.Makes project exchange.1 := by
  intro request makes state before exchange member
  obtain earlier | last := List.mem_append.mp member
  · exact before exchange earlier
  · rw [List.mem_singleton.mp last]
    exact makes

end Client

end CertSteward
