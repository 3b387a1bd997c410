import CertSteward.Proofs.Client.Requests
import CertSteward.Proofs.Manager.Invariants
import CertSteward.Proofs.Profile.Clients

/-!
# Managers of profiles

A profile is refused for its first fault, and without one it gives a manager.
Whatever is asked of the manager afterwards, and whatever is answered, all its
requests go to the profile's address and show the token that was there when it
was built.
-/

namespace CertSteward

set_option autoImplicit false

open CertSteward.Http (Transport)

namespace Profile

variable {profile : Profile} {environment : Environment}

theorem poll_interval_of_with (manager : Manager) (interval : Nat) :
    (manager.withPollInterval interval).pollInterval = max interval Waiter.leastInterval := rfl

/-- An interval of whole seconds is above the least one. -/
theorem poll_interval_kept (manager : Manager) (polls : profile.pollIntervalSecs ≠ 0) :
    (manager.withPollInterval profile.pollInterval).pollInterval = profile.pollInterval := by
  have whole : profile.pollIntervalSecs.toNat ≠ 0 := fun zero => polls (UInt64.toNat_inj.mp zero)
  have above : Waiter.leastInterval ≤ profile.pollInterval := by
    unfold Waiter.leastInterval pollInterval
    omega
  rw [poll_interval_of_with, Nat.max_eq_left above]

theorem manager_refused_iff (error : StewardError) :
    profile.manager environment = .error error ↔ profile.Refused error := by
  constructor
  · intro failed
    obtain ⟨first, refused⟩ | ⟨url, ready⟩ := profile.refused_or_ready
    · obtain rfl := Except.error.inj ((manager_failed (client_refused refused)).symm.trans failed)
      exact refused
    · obtain ⟨shown, -, built⟩ := client_ready ready environment
      rw [manager, built] at failed
      contradiction
  · exact fun refused => manager_failed (client_refused refused)

/-- What a manager and its client are to a profile: they have its project and its interval, and in
every session over HTTP all requests are for that project at the profile's address, with the same
token. -/
structure Serves (profile : Profile) (url : Url) (shown : Option String) (manager : Manager)
    (client : Client) : Prop where
  project : manager.project = profile.projectId
  interval : manager.pollInterval = profile.pollIntervalSecs.toNat * 1000000000
  requests (State : Type) (transport : Transport State) (pages rounds : Nat)
    (delay : String → Rpc → State → Nat) (state : State) (calls : List Manager.Call) :
    ∀ step ∈ manager.session (client.onRecord transport pages delay) rounds (state, []) calls,
      ∀ exchange ∈ step.2.2,
        exchange.1.authorization = shown.map (fun token => "Bearer " ++ token) ∧
          exchange.1.Under url.withOpenEnd profile.projectId

/-- The requests of a session are those of the client that the session goes through. -/
theorem session_makes {project : String} {manager : Manager} (built : manager.Built project)
    (client : Client) {State : Type} (transport : Transport State) (pages rounds : Nat)
    (delay : String → Rpc → State → Nat) (state : State) (calls : List Manager.Call) :
    ∀ step ∈ manager.session (client.onRecord transport pages delay) rounds (state, []) calls,
      ∀ exchange ∈ step.2.2, client.Makes project exchange.1 := by
  have recorded : (client.service transport.recorded pages).Keeps project fun state =>
      ∀ exchange ∈ state.2, client.Makes project exchange.1 := fun rpc _ =>
    Client.call_keeps (Client.record_kept client project transport) pages rpc
  have keeps := slowed_keeps recorded fun project rpc state => delay project rpc state.1
  intro step
  exact Manager.calls_keep built keeps rounds calls ⟨(state, []), .start, []⟩ (by simp) step

/-- A profile of a service on the same machine, with an address whose path has no open end. -/
def workProfile : Profile :=
  { new "certs" with apiUrl := "http://localhost:9000/v1", accessToken := some "t" }

def workManager : Manager :=
  (Manager.new "certs").withPollInterval 10000000000

def workClient : Client :=
  ⟨⟨"http", some ⟨"", none, "localhost", some 9000⟩, .segments ["v1", ""], none, none⟩, some "t",
    defaultUserAgent⟩

theorem work_profile_builds (environment : Environment) :
    workProfile.manager environment = .ok (workManager, workClient) := rfl

def workSteps : List (Manager.Step × Http.Server × List (Http.Request × Http.Answer)) :=
  workManager.session (workClient.onRecord Http.Server.transport 1 fun _ _ _ => 7) 3
    (obligingServer, []) [⟨.create "c" ["example.org"], ⟨none, none, false, none, none⟩⟩]

end Profile

end CertSteward
