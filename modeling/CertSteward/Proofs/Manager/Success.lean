import CertSteward.Http.Server
import CertSteward.Proofs.Client.Exchanges
import CertSteward.Proofs.Operation.Members

/-!
# No false success

A change over HTTP is reported as made only on the word of the service: the
request for it was granted with an operation, and the last exchange of the run
fetched exactly that operation and found it done and without an error.
-/

namespace CertSteward

set_option autoImplicit false

open CertSteward.Http (Transport Request Answer)

variable {State : Type}

namespace Manager

inductive Built (project : String) : Manager → Prop where
  | new : Built project (Manager.new project)
  | withPollInterval {manager : Manager} (interval : Nat) :
      Built project manager → Built project (manager.withPollInterval interval)
  | withProgress {manager : Manager} :
      Built project manager → Built project manager.withProgress

theorem Built.projects {project : String} {manager : Manager} (built : Built project manager) :
    manager.project = project ∧ manager.waiter.project = project := by
  induction built with
  | new => exact ⟨rfl, rfl⟩
  | withPollInterval interval _ ih => exact ih
  | withProgress _ ih => exact ih

end Manager

namespace Client

def insertRequest (client : Client) (project name : String) (domains : List String) : Request :=
  client.request .post (client.resourceUrl project ["sslCertificates"])
    (some (Certificate.forDomains name domains).encode)

def deleteRequest (client : Client) (project name : String) : Request :=
  client.request .delete (client.resourceUrl project ["sslCertificates", name]) none

def fetchRequest (client : Client) (project name : String) : Request :=
  client.request .get (client.resourceUrl project ["operations", name]) none

end Client

/-- Whether an answer is the word of the service that an operation has succeeded. If its body is
an object, the object says so without any reservation. -/
def Http.Answer.SaysDone (answer : Answer) : Prop :=
  ∃ current : Operation, answer.Grants Operation.decoder current ∧
    current.status = "DONE" ∧ current.error = none ∧
    ∀ status body members ending, answer = .complete status body →
      (Json.read (Text.Utf8.read body)).1 = .object members ending →
      Operation.SaysDone members

def Client.FetchedDone (client : Client) (project name : String)
    (exchanges : List (Request × Answer)) : Prop :=
  ∃ earlier last, exchanges = earlier ++ [(client.fetchRequest project name, last)] ∧
    (∀ exchange ∈ earlier, exchange.1 = client.fetchRequest project name) ∧ last.SaysDone

/-- The exchanges of a change that was made: the request for it, granted with an operation, and
then the fetches of that operation until it is done. -/
def Client.Confirmed (client : Client) (project : String) (change : Request)
    (exchanges : List (Request × Answer)) : Prop :=
  ∃ granted operation fetched, exchanges = (change, granted) :: fetched ∧
    granted.Grants Operation.decoder operation ∧
    client.FetchedDone project operation.name fetched

theorem fetched_done_single {client : Client} {project name : String} {answer : Answer}
    (done : answer.SaysDone) :
    client.FetchedDone project name [(client.fetchRequest project name, answer)] := by
  refine ⟨[], answer, rfl, ?_, done⟩
  intro exchange member
  exact absurd member List.not_mem_nil

theorem Client.FetchedDone.cons {client : Client} {project name : String}
    {exchanges : List (Request × Answer)} (done : client.FetchedDone project name exchanges)
    (answer : Answer) :
    client.FetchedDone project name ((client.fetchRequest project name, answer) :: exchanges) := by
  obtain ⟨earlier, last, split, same, word⟩ := done
  refine ⟨(client.fetchRequest project name, answer) :: earlier, last, ?_, ?_, word⟩
  · rw [split]
    rfl
  · intro exchange member
    rcases List.mem_cons.1 member with rfl | later
    · rfl
    · exact same exchange later

theorem says_done_of_grants {answer : Answer} {current : Operation}
    (granted : answer.Grants Operation.decoder current) (done : current.status = "DONE")
    (clean : current.error = none) : answer.SaysDone := by
  refine ⟨current, granted, done, clean, ?_⟩
  intro status body members ending complete read
  obtain ⟨status', body', same, _, _, decoded⟩ := granted
  rw [complete] at same
  obtain ⟨_, rfl⟩ := Answer.complete.inj same
  have taken := Json.Decoder.of_bytes_eq_ok decoded
  rw [read] at taken
  exact Operation.says_done_of_decoded taken done clean

/-- The service over HTTP with all its exchanges kept, and with a time for every call. -/
def Client.onRecord (client : Client) (transport : Transport State) (pages : Nat)
    (delay : String → Rpc → State → Nat) : Service (State × List (Request × Answer)) :=
  (client.service transport.recorded pages).slowed fun project rpc state =>
    delay project rpc state.1

section

variable {client : Client} {transport : Transport State} {pages : Nat}
  {delay : String → Rpc → State → Nat}

theorem fetch_recorded {waiter : Waiter} {operation : String} {state : State}
    {past : List (Request × Answer)} {current : Operation}
    (fetched : (waiter.reply (client.onRecord transport pages delay) operation 0
      (state, past)).result = some (.ok current)) :
    ∃ answer next, answer.Grants Operation.decoder current ∧
      (waiter.answer (client.onRecord transport pages delay) operation (state, past)).2 =
        (next, past ++ [(client.fetchRequest waiter.project operation, answer)]) :=
  Client.send_recorded_ok transport Operation.decoder
    (client.fetchRequest waiter.project operation) (Option.some.inj fetched)

theorem poll_success {waiter : Waiter} {context : Context} {operation : String}
    {started rounds attempt : Nat} {state : State} {past : List (Request × Answer)}
    {timeline : Timeline}
    (succeeded : (waiter.poll (client.onRecord transport pages delay) context operation
      started rounds attempt (state, past) timeline).result = some (.ok ())) :
    ∃ exchanges next,
      (waiter.poll (client.onRecord transport pages delay) context operation started rounds
        attempt (state, past) timeline).state = (next, past ++ exchanges) ∧
      client.FetchedDone waiter.project operation exchanges := by
  induction rounds generalizing attempt state past timeline with
  | zero => contradiction
  | succ rounds ih =>
      obtain ⟨current, fetched, rest⟩ := Waiter.poll_ok _ _ _ _ succeeded
      obtain ⟨answer, next, granted, recorded⟩ := fetch_recorded fetched
      rw [recorded] at rest
      rcases rest with ⟨done, clean, reached⟩ | ⟨resumed, later, same⟩
      · exact ⟨_, next, reached, fetched_done_single (says_done_of_grants granted done clean)⟩
      · obtain ⟨exchanges, final, reached, all⟩ := ih later
        rw [same, reached]
        exact ⟨_, final, by rw [List.append_assoc]; rfl, all.cons answer⟩

theorem settle_success {manager : Manager} {project : String} (built : manager.Built project)
    {rounds : Nat} {context : Context} {change : Request}
    {asked : Run (State × List (Request × Answer)) ApiError Operation}
    (sent : ∀ operation, asked.result = some (.ok operation) →
      ∃ answer next, answer.Grants Operation.decoder operation ∧
        asked.state = (next, [(change, answer)]))
    (succeeded : (manager.settle (client.onRecord transport pages delay) rounds context
      asked).result = some (.ok ())) :
    client.Confirmed project change
      (manager.settle (client.onRecord transport pages delay) rounds context asked).state.2 := by
  obtain ⟨operation, granted, waited, final⟩ := Run.and_then_ok succeeded
  obtain ⟨answer, next, grants, recorded⟩ := sent operation (Run.map_error_ok granted)
  have here : (asked.mapError StewardError.api).state = (next, [(change, answer)]) := recorded
  rw [Manager.settle, final]
  rw [here] at waited ⊢
  obtain ⟨exchanges, last, reached, fetched⟩ := poll_success waited
  have left : (manager.waiter.wait (client.onRecord transport pages delay) rounds context
      operation.name (next, [(change, answer)]) (asked.mapError StewardError.api).timeline).state =
        (last, [(change, answer)] ++ exchanges) := reached
  rw [left]
  rw [built.projects.2] at fetched
  exact ⟨answer, operation, exchanges, rfl, grants, fetched⟩

/-- Whatever is answered, in whatever time, and whenever the context ends: if a certificate is
said to have been created or deleted, the service has granted the one request for it and has said
in the last exchange that the operation it named is done without an error. -/
theorem success_is_confirmed {manager : Manager} {project : String}
    (built : manager.Built project) (client : Client) (transport : Transport State)
    (pages rounds : Nat) (delay : String → Rpc → State → Nat) (context : Context) (name : String)
    (domains : List String) (state : State) (timeline : Timeline) :
    ((manager.create ((client.service transport pages).slowed delay) rounds context name domains
          state timeline).result = some (.ok ()) →
        client.Confirmed project (client.insertRequest project name domains)
          (manager.create (client.onRecord transport pages delay) rounds context name domains
            (state, []) timeline).state.2) ∧
      ((manager.delete ((client.service transport pages).slowed delay) rounds context name
          state timeline).result = some (.ok ()) →
        client.Confirmed project (client.deleteRequest project name)
          (manager.delete (client.onRecord transport pages delay) rounds context name
            (state, []) timeline).state.2) := by
  have mirrors : (client.onRecord transport pages delay).Mirrors
      ((client.service transport pages).slowed delay) Prod.fst :=
    slowed_mirrors (Client.service_recorded_mirrors transport client pages) delay
  constructor
  · intro succeeded
    rw [← create_mirrored mirrors manager rounds context name domains (state, []) timeline]
      at succeeded
    refine settle_success built ?_ succeeded
    intro operation granted
    rw [built.projects.1] at granted ⊢
    exact Client.send_recorded_ok transport Operation.decoder
      (client.insertRequest project name domains) (Option.some.inj granted)
  · intro succeeded
    rw [← delete_mirrored mirrors manager rounds context name (state, []) timeline]
      at succeeded
    refine settle_success built ?_ succeeded
    intro operation granted
    rw [built.projects.1] at granted ⊢
    exact Client.send_recorded_ok transport Operation.decoder
      (client.deleteRequest project name) (Option.some.inj granted)

end

def obligingServer : Http.Server :=
  ⟨[.complete 200 (Text.Utf8.encode "\x7b\"name\":\"op\",\"status\":\"PENDING\"\x7d"),
    .complete 200 (Text.Utf8.encode "\x7b\"name\":\"op\",\"status\":\"RUNNING\"\x7d"),
    .complete 200
      (Text.Utf8.encode "\x7b\"name\":\"op\",\"status\":\"DONE\",\"error\":null\x7d")],
    []⟩

theorem created_certificate_is_confirmed :
    Client.localClient.Confirmed "p" (Client.localClient.insertRequest "p" "c" ["example.org"])
      ((Manager.new "p").create
        (Client.localClient.onRecord Http.Server.transport 1 fun _ _ _ => 7) 3
        Timeline.start.newContext.1 "c" ["example.org"] (obligingServer, [])
        Timeline.start.newContext.2).state.2 :=
  (success_is_confirmed .new Client.localClient Http.Server.transport 1 3 (fun _ _ _ => 7)
    Timeline.start.newContext.1 "c" ["example.org"] obligingServer
    Timeline.start.newContext.2).1 (by decide +kernel)

end CertSteward
