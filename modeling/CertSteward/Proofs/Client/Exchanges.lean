import CertSteward.Client
import CertSteward.Proofs.Service.Mirror

/-!
# Exchanges on record

A transport can keep every exchange that it carries; nothing else about it
changes, so a run over it is the run without the record. A call succeeds only
with an exchange that was answered completely, with a status of success and
with a body that says the value.
-/

namespace CertSteward

set_option autoImplicit false

variable {State α : Type}

namespace Http

def Transport.recorded (transport : Transport State) :
    Transport (State × List (Request × Answer)) where
  exchange request state :=
    let (answer, next) := transport.exchange request state.1
    (answer, next, state.2 ++ [(request, answer)])

def Answer.Grants (decoder : Json.Decoder α) (answer : Answer) (value : α) : Prop :=
  ∃ status body, answer = .complete status body ∧ 200 ≤ status ∧ status ≤ 299 ∧
    decoder.ofBytes body = .ok value

end Http

namespace Client

open CertSteward.Http (Transport Request Answer)
open CertSteward.Json (Decoder)

theorem interpret_eq_ok_iff (decoder : Decoder α) (answer : Answer) (value : α) :
    interpret decoder answer = .ok value ↔ answer.Grants decoder value := by
  constructor
  · intro granted
    cases answer with
    | broken => contradiction
    | timedOut => contradiction
    | complete status body =>
        unfold interpret at granted
        dsimp only at granted
        split at granted
        · rename_i success
          rw [Http.isSuccess, Bool.and_eq_true, decide_eq_true_eq, decide_eq_true_eq] at success
          cases decoded : decoder.ofBytes body with
          | error error =>
              rw [decoded] at granted
              contradiction
          | ok found =>
              rw [decoded] at granted
              rw [Except.ok.inj granted] at decoded
              exact ⟨status, body, rfl, success.1, success.2, decoded⟩
        · contradiction
  · rintro ⟨status, body, rfl, least, most, decoded⟩
    have success : Http.isSuccess status = true := by simp [Http.isSuccess, least, most]
    simp only [interpret, success, decoded, if_true]
    rfl

variable (transport : Transport State) (decoder : Decoder α) (request : Request)

/-- The record aside, a request is sent as it is without one. -/
theorem send_recorded (state : State) (past : List (Request × Answer)) :
    (send transport.recorded decoder request (state, past)).1 =
        (send transport decoder request state).1 ∧
      (send transport.recorded decoder request (state, past)).2.1 =
        (send transport decoder request state).2.1 ∧
      (send transport.recorded decoder request (state, past)).2.2.1 =
        (send transport decoder request state).2.2 := by
  unfold send
  split <;> exact ⟨rfl, rfl, rfl⟩

/-- A request that is answered with a value leaves its exchange in the record. -/
theorem send_recorded_ok {state : State} {past : List (Request × Answer)} {value : α}
    (succeeded : (send transport.recorded decoder request (state, past)).1 = .ok value) :
    ∃ answer next, answer.Grants decoder value ∧
      (send transport.recorded decoder request (state, past)).2.2 =
        (next, past ++ [(request, answer)]) := by
  unfold send at succeeded ⊢
  split at succeeded
  · rename_i sendable
    rw [if_pos sendable]
    exact ⟨_, _, (interpret_eq_ok_iff _ _ _).1 succeeded, rfl⟩
  · contradiction

section

variable {Other : Type} {client other : Client} {transport : Transport State}
  {plain : Transport Other} {view : State → Other}

/-- Whether two clients of one address get the same out of their requests, each over its own
transport, in what can be seen of the state of the first one. -/
structure SendsAlike (client other : Client) (transport : Transport State)
    (plain : Transport Other) (view : State → Other) : Prop where
  address : client.baseUrl = other.baseUrl
  sends {β : Type} (decoder : Decoder β) (method : Http.Method) (url : Url)
    (body : Option Json.Value) (state : State) :
    (send transport decoder (client.request method url body) state).1 =
        (send plain decoder (other.request method url body) (view state)).1 ∧
      (send transport decoder (client.request method url body) state).2.1 =
        (send plain decoder (other.request method url body) (view state)).2.1 ∧
      view (send transport decoder (client.request method url body) state).2.2 =
        (send plain decoder (other.request method url body) (view state)).2.2

theorem SendsAlike.resources (alike : SendsAlike client other transport plain view)
    (project : String) (names : List String) :
    client.resourceUrl project names = other.resourceUrl project names := by
  rw [resourceUrl, resourceUrl, alike.address]

theorem SendsAlike.pages (alike : SendsAlike client other transport plain view)
    (project : String) (pageToken : Option String) :
    client.pageUrl project pageToken = other.pageUrl project pageToken := by
  unfold pageUrl
  rw [alike.resources]

theorem single_alike (alike : SendsAlike client other transport plain view)
    (decoder : Decoder α) (method : Http.Method) (project : String) (names : List String)
    (body : Option Json.Value) (state : State) :
    (client.single transport decoder method (client.resourceUrl project names) body state).1 =
        (other.single plain decoder method (other.resourceUrl project names) body
          (view state)).1 ∧
      view (client.single transport decoder method (client.resourceUrl project names) body
          state).2 =
        (other.single plain decoder method (other.resourceUrl project names) body
          (view state)).2 := by
  rw [alike.resources]
  obtain ⟨result, log, next⟩ :=
    alike.sends decoder method (other.resourceUrl project names) body state
  simp only [single, result, log, next, and_self]

theorem list_from_alike (alike : SendsAlike client other transport plain view)
    (project : String) (rounds : Nat) (pageToken : Option String) (gathered : List Certificate)
    (state : State) :
    (client.listFrom transport project rounds pageToken gathered state).1 =
        (other.listFrom plain project rounds pageToken gathered (view state)).1 ∧
      view (client.listFrom transport project rounds pageToken gathered state).2 =
        (other.listFrom plain project rounds pageToken gathered (view state)).2 := by
  induction rounds generalizing pageToken gathered state with
  | zero => exact ⟨rfl, rfl⟩
  | succ rounds ih =>
      obtain ⟨result, log, next⟩ := alike.sends CertificateList.decoder .get
        (other.pageUrl project pageToken) none state
      simp only [listFrom, alike.pages, result, log]
      cases (send plain CertificateList.decoder
          (other.request .get (other.pageUrl project pageToken) none) (view state)).1 with
      | error error => exact ⟨rfl, next⟩
      | ok page =>
          dsimp only
          split
          · exact ⟨rfl, next⟩
          · exact ⟨rfl, next⟩
          · obtain ⟨replies, states⟩ := ih _ _ _
            rw [replies, states, next]
            exact ⟨rfl, rfl⟩

/-- Clients that send alike are services that answer alike. -/
theorem service_mirrors_of_alike (alike : SendsAlike client other transport plain view)
    (pages : Nat) :
    (client.service transport pages).Mirrors (other.service plain pages) view := by
  intro project rpc state
  cases rpc with
  | insert certificate => exact single_alike alike _ _ project _ _ state
  | delete name => exact single_alike alike _ _ project _ _ state
  | get name => exact single_alike alike _ _ project _ _ state
  | list => exact list_from_alike alike project pages none [] state
  | operation name => exact single_alike alike _ _ project _ _ state

end

theorem recorded_alike (client : Client) :
    SendsAlike client client transport.recorded transport Prod.fst :=
  ⟨rfl, fun decoder method url body state =>
    send_recorded transport decoder (client.request method url body) state.1 state.2⟩

theorem list_from_recorded (client : Client) (project : String) (rounds : Nat)
    (pageToken : Option String) (gathered : List Certificate)
    (state : State × List (Request × Answer)) :
    (client.listFrom transport.recorded project rounds pageToken gathered state).1 =
        (client.listFrom transport project rounds pageToken gathered state.1).1 ∧
      (client.listFrom transport.recorded project rounds pageToken gathered state).2.1 =
        (client.listFrom transport project rounds pageToken gathered state.1).2 :=
  list_from_alike (recorded_alike transport client) project rounds pageToken gathered state

/-- A client over a recording transport answers as it does over the transport alone. -/
theorem service_recorded_mirrors (client : Client) (pages : Nat) :
    (client.service transport.recorded pages).Mirrors (client.service transport pages)
      Prod.fst :=
  service_mirrors_of_alike (recorded_alike transport client) pages

def localClient : Client :=
  ⟨⟨"http", some ⟨"", none, "localhost", none⟩, .segments [""], none, none⟩, none, "steward"⟩

end Client

end CertSteward
