import CertSteward.Client.Session
import CertSteward.Proofs.Client.Requests
import CertSteward.Proofs.Outcome
import CertSteward.Proofs.Profile.Clients

/-!
# The token stays in its header

A client with a token does over a server by script what it does without one,
but for the header of its requests. So two runs with different tokens differ
in that header alone, and it stands in every request of both.
-/

namespace CertSteward

set_option autoImplicit false

namespace Http

theorem is_header_text_append (front back : String) :
    isHeaderText (front ++ back) = (isHeaderText front && isHeaderText back) := by
  rw [isHeaderText, String.toList_append, List.all_append]
  rfl

def Request.unsigned (request : Request) : Request :=
  { request with authorization := none }

def Server.unsigned (server : Server) : Server :=
  ⟨server.answers, server.requests.map Request.unsigned⟩

/-- Whether all requests that a server was sent showed one thing. -/
def Server.Shown (header : Option String) (server : Server) : Prop :=
  ∀ request ∈ server.requests, request.authorization = header

theorem Server.requests_after (request : Request) (server : Server) :
    (exchange request server).2.requests = server.requests ++ [request] := by
  obtain ⟨answers, requests⟩ := server
  cases answers <;> rfl

theorem exchange_unsigned (request : Request) (server : Server) :
    (Server.exchange request server).1 =
        (Server.exchange request.unsigned server.unsigned).1 ∧
      (Server.exchange request server).2.unsigned =
        (Server.exchange request.unsigned server.unsigned).2 := by
  obtain ⟨answers, requests⟩ := server
  cases answers <;> simp [Server.exchange, Server.unsigned]

end Http

def Manager.texts (built : Manager × Client) : String × String :=
  (built.1.describe, built.2.describe)

namespace Client

open CertSteward.Http (Server)

variable {State Other : Type} {client : Client} {token : String}

def unsigned (client : Client) : Client :=
  { client with token := none }

/-- A token that fits its header has no influence on whether a request can be sent. -/
theorem is_sendable_unsigned (shown : client.token = some token)
    (fits : Http.isHeaderText token = true) (method : Http.Method) (url : Url)
    (body : Option Json.Value) :
    isSendable (client.request method url body) =
      isSendable (client.unsigned.request method url body) := by
  have header : Http.isHeaderText ("Bearer " ++ token) = true := by
    rw [Http.is_header_text_append, fits]
    decide
  have shows_ : client.authorization = some ("Bearer " ++ token) := by
    rw [authorization, shown]
    rfl
  simp only [isSendable, request, shows_, header]
  rfl

/-- What is sent with a token and what is sent without it come to the same. -/
theorem unsigned_alike (shown : client.token = some token)
    (fits : Http.isHeaderText token = true) :
    SendsAlike client client.unsigned Server.transport Server.transport Server.unsigned where
  address := rfl
  sends decoder method url body server := by
    obtain ⟨answered, kept⟩ :=
      Http.exchange_unsigned (client.request method url body) server
    unfold send
    rw [is_sendable_unsigned shown fits]
    split
    · refine ⟨congrArg (interpret decoder) answered, ?_, kept⟩
      exact congrArg (fun answer => requestEntry _ :: answerEntries answer) answered
    · exact ⟨rfl, rfl, rfl⟩

def Step.seen (view : State → Other) (step : Step State) : Step Other :=
  ⟨step.result, step.log, view step.after⟩

theorem session_mirrored {service : Service State} {other : Service Other} {view : State → Other}
    (mirrors : service.Mirrors other view) (calls : List Call) (state : State) :
    (session service state calls).map (Step.seen view) = session other (view state) calls := by
  induction calls generalizing state with
  | nil => rfl
  | cons call rest ih =>
      have step : (answer service call state).seen view = answer other call (view state) := by
        unfold answer
        cases call.rpc with
        | error error => rfl
        | ok rpc =>
            obtain ⟨replies, states⟩ := mirrors call.project rpc state
            simp only [Step.seen, replies, states]
      rw [session, session, List.map_cons, ih, ← step]
      rfl

/-- What every call keeps holds after every step of a session. -/
theorem session_keeps {service : Service State} {holds : State → Prop}
    (keeps : ∀ project rpc state, holds state → holds (service.call project rpc state).2)
    (calls : List Call) (state : State) (before : holds state) :
    ∀ step ∈ session service state calls, holds step.after := by
  induction calls generalizing state with
  | nil => intro step member; contradiction
  | cons call rest ih =>
      have after : holds (answer service call state).after := by
        unfold answer
        cases call.rpc with
        | error error => exact before
        | ok rpc => exact keeps call.project rpc state before
      intro step member
      obtain rfl | later := List.mem_cons.mp member
      · exact after
      · exact ih _ after step later

/-- The requests of a session all show what the client shows, those for the pages of a listing
included. -/
theorem session_shown (client : Client) (rounds : Nat) (answers : List Http.Answer)
    (calls : List Call) :
    ∀ step ∈ session (client.service Server.transport rounds) ⟨answers, []⟩ calls,
      step.after.Shown client.authorization := by
  have kept (project : String) :
      client.KeptBy project Server.transport (Server.Shown client.authorization) := by
    intro request makes server before other member
    change other ∈ (Server.exchange request server).2.requests at member
    rw [Server.requests_after] at member
    obtain earlier | last := List.mem_append.mp member
    · exact before other earlier
    · rw [List.mem_singleton.mp last]
      exact makes.authorization
  have keeps (project : String) (rpc : Rpc) (server : Server)
      (before : server.Shown client.authorization) :
      ((client.service Server.transport rounds).call project rpc server).2.Shown
        client.authorization :=
    call_keeps (kept project) rounds rpc before
  have none_yet : Server.Shown client.authorization ⟨answers, []⟩ := by
    intro request member
    contradiction
  exact session_keeps keeps calls ⟨answers, []⟩ none_yet

/-- What is there to see of a client, of a manager that goes through it and of a session of its
calls but for the tokens: the texts of both, and of every step the result, the log and the
requests without what they show. -/
def outward (manager : Manager) (rounds : Nat) (answers : List Http.Answer) (calls : List Call)
    (client : Client) : (String × String) × List (Step Server) :=
  (Manager.texts (manager, client),
    (session (client.service Server.transport rounds) ⟨answers, []⟩ calls).map
      (Step.seen Server.unsigned))

theorem outward_eq (shown : client.token = some token) (fits : Http.isHeaderText token = true)
    (manager : Manager) (rounds : Nat) (answers : List Http.Answer) (calls : List Call) :
    outward manager rounds answers calls client = (Manager.texts (manager, client),
      session (client.unsigned.service Server.transport rounds) ⟨answers, []⟩ calls) :=
  congrArg (Prod.mk _)
    (session_mirrored (service_mirrors_of_alike (unsigned_alike shown fits) rounds) calls _)

end Client

def ClientSettings.withToken (settings : ClientSettings) (token : String) : ClientSettings :=
  { settings with token := some token }

def Profile.withToken (profile : Profile) (token : String) : Profile :=
  { profile with accessToken := some token }

/-- A client is built with a token as it is with another one. -/
theorem ClientSettings.build_with_token (settings : ClientSettings) (token : String) :
    (settings.withToken token).build =
      settings.build.map fun client => { client with token := some token } := by
  have address : (settings.withToken token).address = settings.address := rfl
  have agent : (settings.withToken token).userAgent = settings.userAgent := rfl
  unfold build
  rw [address, agent]
  cases settings.address with
  | error error => rfl
  | ok url => cases Http.isHeaderText settings.userAgent <;> rfl

namespace Client

theorem outward_of_token {first second : String} (fits : Http.isHeaderText first = true)
    (also : Http.isHeaderText second = true) (client : Client) (manager : Manager) (rounds : Nat)
    (answers : List Http.Answer) (calls : List Call) :
    outward manager rounds answers calls { client with token := some first } =
      outward manager rounds answers calls { client with token := some second } := by
  rw [outward_eq rfl fits, outward_eq rfl also]
  rfl

end Client

/-- A token that a profile can show: not empty, and without a reference in it. -/
structure Profile.Showable (token : String) : Prop where
  filled : token ≠ ""
  unmarked : ¬ Profile.openBrace <:+: token.toList

namespace Profile

theorem manager_with_token {profile : Profile} {token : String} (showable : Showable token)
    (valid : profile.validate = .ok ()) (environment : Environment) :
    (profile.withToken token).manager environment =
      ((ClientSettings.mk profile.apiUrl none defaultUserAgent).address.mapError
        StewardError.api).map fun url =>
          ((Manager.new profile.projectId).withPollInterval profile.pollInterval,
            Client.mk url (some token) defaultUserAgent) := by
  have resolved : (profile.withToken token).resolveToken environment = .ok (some token) :=
    resolve_unmarked rfl showable.filled showable.unmarked
  have address : (ClientSettings.mk (profile.withToken token).apiUrl (some token)
      defaultUserAgent).address =
        (ClientSettings.mk profile.apiUrl none defaultUserAgent).address := rfl
  have checked : (profile.withToken token).validate = .ok () := valid
  rw [manager, client_resolved checked resolved, address]
  cases (ClientSettings.mk profile.apiUrl none defaultUserAgent).address <;> rfl

/-- The texts of what is built for a profile are the same for every token that it can show. -/
theorem texts_of_token {first second : String} (one : Showable first) (two : Showable second)
    (profile : Profile) (environment : Environment) :
    ((profile.withToken first).manager environment).map Manager.texts =
      ((profile.withToken second).manager environment).map Manager.texts := by
  cases valid : profile.validate with
  | error error =>
      have refused (token : String) :
          (profile.withToken token).manager environment = .error (.config error) :=
        manager_failed (client_invalid valid)
      rw [refused, refused]
  | ok =>
      rw [manager_with_token one valid, manager_with_token two valid]
      cases (ClientSettings.mk profile.apiUrl none defaultUserAgent).address <;> rfl

end Profile

namespace Client

open CertSteward.Http (Server)

/-- Two clients that differ in their tokens are built alike, have one text and, over a server by
script, the same results, logs and requests in every session of calls, but for what the requests
show: that is each client's own token, in every single request. The texts of a manager and a
client that are built for a profile do not depend on its token either. -/
theorem token_is_in_header_alone (settings : ClientSettings) {first second : String}
    (fits : Http.isHeaderText first = true) (also : Http.isHeaderText second = true)
    (manager : Manager) (rounds : Nat) (answers : List Http.Answer) (calls : List Call) :
    (settings.withToken first).build.map (outward manager rounds answers calls) =
        (settings.withToken second).build.map (outward manager rounds answers calls) ∧
      (∀ token client, (settings.withToken token).build = .ok client →
        ∀ step ∈ session (client.service Server.transport rounds) ⟨answers, []⟩ calls,
          step.after.Shown (some ("Bearer " ++ token))) ∧
      (Profile.Showable first → Profile.Showable second →
        ∀ (profile : Profile) (environment : Environment),
          ((profile.withToken first).manager environment).map Manager.texts =
            ((profile.withToken second).manager environment).map Manager.texts) := by
  refine ⟨?_, ?_, Profile.texts_of_token⟩
  · rw [ClientSettings.build_with_token, ClientSettings.build_with_token]
    cases settings.build with
    | error error => rfl
    | ok client =>
        exact congrArg Except.ok (outward_of_token fits also client manager rounds answers calls)
  · intro token client built
    rw [ClientSettings.build_with_token] at built
    obtain ⟨plain, -, rfl⟩ := ok_of_map built
    exact session_shown { plain with token := some token } rounds answers calls

def pagedAnswers : List Http.Answer :=
  [.complete 200 (Text.Utf8.encode "\x7b\"items\":[],\"nextPageToken\":\"next\"\x7d"),
    .complete 200 (Text.Utf8.encode "\x7b\x7d"), .broken]

def pagedSteps (token : String) : List (Step Server) :=
  session (Client.service { localBuilt with token := some token } Server.transport 2)
    ⟨pagedAnswers, []⟩ [⟨"p", .ok .list⟩, ⟨"p", .ok (.get "c")⟩]

theorem pages_show_token :
    (pagedSteps "alpha").map (Step.seen Server.unsigned) =
        (pagedSteps "beta").map (Step.seen Server.unsigned) ∧
      (pagedSteps "alpha").map (fun step => step.after.requests.length) = [2, 3] ∧
      ∀ step ∈ pagedSteps "alpha", step.after.Shown (some "Bearer alpha") := by
  obtain ⟨alike, shown, -⟩ := token_is_in_header_alone localSettings
    (show Http.isHeaderText "alpha" = true by decide)
    (show Http.isHeaderText "beta" = true by decide) (.new "p") 2 pagedAnswers
    [⟨"p", .ok .list⟩, ⟨"p", .ok (.get "c")⟩]
  have built (token : String) : (localSettings.withToken token).build =
      .ok { localBuilt with token := some token } := by
    rw [ClientSettings.build_with_token, show localSettings.build = .ok localBuilt from rfl]
    rfl
  rw [built, built] at alike
  exact ⟨congrArg Prod.snd (Except.ok.inj alike), by decide +kernel, shown "alpha" _ (built _)⟩

end Client

end CertSteward
