import CertSteward.Proofs.Client.Outcomes

/-!
# Present, absent or unknown

A certificate is present if it could be fetched, and absent only if the service
itself says so with the status of a missing item. Every other exchange leaves
the question open, and reading the certificate then fails with the same error.
-/

namespace CertSteward

set_option autoImplicit false

open CertSteward.Http (Transport)

variable {State : Type}

namespace Manager

def presence : Except ApiError Certificate → Except StewardError Bool
  | .ok _ => .ok true
  | .error error => if error.isNotFound then .ok false else .error (.api error)

section

variable (manager : Manager) (service : Service State) (name : String) (state : State)
  (timeline : Timeline)

theorem is_present_result :
    (manager.isPresent service name state timeline).result =
      (service.perform manager.project (.get name) state timeline).result.map presence := by
  unfold isPresent
  dsimp only
  cases (service.perform manager.project (.get name) state timeline).result with
  | none => rfl
  | some result =>
      cases result with
      | ok certificate => rfl
      | error error =>
          unfold presence
          dsimp only [Option.map]
          cases error.isNotFound <;> rfl

theorem get_result :
    (manager.get service name state timeline).result =
      (service.perform manager.project (.get name) state timeline).result.map
        (Except.mapError .api) := rfl

end

section

variable {result : Except ApiError Certificate}

/-- A fetch says whether the certificate is there only if it was found or is missing. -/
theorem presence_eq_ok_iff (present : Bool) :
    presence result = .ok present ↔
      (present = true ∧ ∃ certificate, result = .ok certificate) ∨
        (present = false ∧ ∃ error, result = .error error ∧ error.isNotFound = true) := by
  cases result with
  | ok certificate => cases present <;> simp [presence]
  | error error => cases missing : error.isNotFound <;> cases present <;> simp [presence, missing]

theorem presence_eq_true_iff :
    presence result = .ok true ↔ ∃ certificate, result = .ok certificate := by
  simp [presence_eq_ok_iff]

theorem presence_eq_false_iff :
    presence result = .ok false ↔ ∃ error, result = .error error ∧ error.isNotFound = true := by
  simp [presence_eq_ok_iff]

theorem presence_eq_error_iff (failure : StewardError) :
    presence result = .error failure ↔
      result.mapError .api = .error failure ∧ failure.isNotFound = false := by
  cases result with
  | ok certificate => simp [presence, Except.mapError]
  | error error =>
      simp only [presence, Except.mapError, Except.error.injEq]
      constructor
      · intro failed
        split at failed
        · contradiction
        · rename_i known
          rw [← Except.error.inj failed]
          exact ⟨rfl, Bool.not_eq_true _ ▸ known⟩
      · rintro ⟨rfl, known⟩
        rw [if_neg (by simpa [StewardError.isNotFound] using known)]

theorem map_error_eq_ok_iff (certificate : Certificate) :
    result.mapError StewardError.api = .ok certificate ↔ result = .ok certificate := by
  cases result <;> simp [Except.mapError]

theorem map_error_not_found_iff :
    (∃ failure, result.mapError .api = .error failure ∧
        StewardError.isNotFound failure = true) ↔
      ∃ error, result = .error error ∧ error.isNotFound = true := by
  cases result with
  | ok certificate => simp [Except.mapError]
  | error error => simp [Except.mapError, StewardError.isNotFound]

end

section

variable {answer : Http.Answer} {result : Except ApiError Certificate}

theorem fetched_iff (means : Client.Means Certificate.decoder answer result) :
    (∃ certificate, result = .ok certificate) ↔
      ∃ certificate, answer.Grants Certificate.decoder certificate := by
  refine exists_congr fun certificate => ?_
  rw [← Client.means_ok_iff]
  constructor
  · rintro rfl
    exact means
  · exact means.unique

theorem missing_iff (means : Client.Means Certificate.decoder answer result) :
    (∃ error, result = .error error ∧ error.isNotFound = true) ↔
      ∃ body, answer = .complete 404 body := by
  constructor
  · rintro ⟨error, rfl, missing⟩
    have status := (Client.follows_of_means means).notFound.mp missing
    cases answer with
    | complete code body => exact ⟨body, by rw [Option.some.inj status]⟩
    | broken => contradiction
    | timedOut => contradiction
  · rintro ⟨body, rfl⟩
    cases means with
    | value success => omega
    | unreadable success => omega
    | failure failed told => exact ⟨_, rfl, rfl⟩

end

section

variable (client : Client) (transport : Transport State) (project name : String) (state : State)

/-- Whether a fetch of a certificate is sent and has this answer. -/
def Answered (answer : Http.Answer) : Prop :=
  Client.isSendable (client.requestFor project (.get name)) = true ∧
    (transport.exchange (client.requestFor project (.get name)) state).1 = answer

/-- A fetch has one result, whatever the answer, and its answer tells which. -/
theorem fetch_result (pages : Nat) (delay : String → Rpc → State → Nat) (timeline : Timeline) :
    ∃ result : Except ApiError Certificate,
      (((client.service transport pages).slowed delay).perform project (.get name) state
          timeline).result = some result ∧
        ((∃ certificate, result = .ok certificate) ↔
          ∃ answer certificate, Answered client transport project name state answer ∧
            answer.Grants Certificate.decoder certificate) ∧
        ((∃ error, result = .error error ∧ error.isNotFound = true) ↔
          ∃ body, Answered client transport project name state (.complete 404 body)) := by
  have alone : Rpc.get name ≠ .list := by simp
  by_cases sendable : Client.isSendable (client.requestFor project (.get name)) = true
  · have reply := client.call_of_sendable transport pages project alone sendable state
    have means := Client.means_interpret Certificate.decoder
      (transport.exchange (client.requestFor project (.get name)) state).1
    refine ⟨_, congrArg (fun answered => answered.1.result) reply, ?_, ?_⟩
    · refine (fetched_iff means).trans ⟨?_, ?_⟩
      · rintro ⟨certificate, grants⟩
        exact ⟨_, certificate, ⟨sendable, rfl⟩, grants⟩
      · rintro ⟨answer, certificate, ⟨-, rfl⟩, grants⟩
        exact ⟨certificate, grants⟩
    · refine (missing_iff means).trans ⟨?_, ?_⟩
      · rintro ⟨body, same⟩
        exact ⟨body, sendable, same⟩
      · rintro ⟨body, -, same⟩
        exact ⟨body, same⟩
  · have reply := client.call_of_not_sendable transport pages project alone
      (Bool.not_eq_true _ ▸ sendable) state
    refine ⟨_, congrArg (fun answered => answered.1.result) reply, ?_, ?_⟩
    · refine iff_of_false (by simp) ?_
      rintro ⟨answer, certificate, ⟨sent, -⟩, -⟩
      exact sendable sent
    · refine iff_of_false ?_ ?_
      · rintro ⟨error, same, missing⟩
        rw [← Except.error.inj same] at missing
        contradiction
      · rintro ⟨body, sent, -⟩
        exact sendable sent

end

/-- Present with a certificate, absent with the status of a missing item, and an error otherwise;
reading the certificate in the same state comes to the same. -/
theorem presence_follows_exchange (manager : Manager) (client : Client)
    (transport : Transport State) (pages : Nat) (delay : String → Rpc → State → Nat)
    (name : String) (state : State) (timeline : Timeline) :
    let service := (client.service transport pages).slowed delay
    let granted := ∃ answer certificate,
      Answered client transport manager.project name state answer ∧
        answer.Grants Certificate.decoder certificate
    let missing := ∃ body,
      Answered client transport manager.project name state (.complete 404 body)
    let present := (manager.isPresent service name state timeline).result
    let fetched := (manager.get service name state timeline).result
    (present = some (.ok true) ↔ granted) ∧
      (present = some (.ok false) ↔ missing) ∧
      (¬ granted → ¬ missing → ∃ failure, present = some (.error failure)) ∧
      ((∃ certificate, fetched = some (.ok certificate)) ↔ present = some (.ok true)) ∧
      ((∃ failure, fetched = some (.error failure) ∧ failure.isNotFound = true) ↔
        present = some (.ok false)) ∧
      ∀ failure, present = some (.error failure) ↔
        fetched = some (.error failure) ∧ failure.isNotFound = false := by
  intro service granted missing present fetched
  obtain ⟨result, called, grants, misses⟩ :=
    fetch_result client transport manager.project name state pages delay timeline
  have presents : present = some (presence result) := by
    rw [show present = _ from manager.is_present_result service name state timeline, called]
    rfl
  have gets : fetched = some (result.mapError .api) := by
    rw [show fetched = _ from manager.get_result service name state timeline, called]
    rfl
  simp only [presents, gets, Option.some.injEq, presence_eq_true_iff, presence_eq_false_iff,
    presence_eq_error_iff, map_error_eq_ok_iff, map_error_not_found_iff]
  refine ⟨grants, misses, ?_, trivial, trivial, fun _ => trivial⟩
  intro refused known
  cases result with
  | ok certificate => exact absurd (grants.mp ⟨certificate, rfl⟩) refused
  | error error =>
      refine ⟨.api error, rfl, ?_⟩
      by_contra missing
      exact known (misses.mp ⟨error, rfl, Bool.not_eq_false _ ▸ missing⟩)

end Manager

end CertSteward
