import CertSteward.Certificate.Json
import CertSteward.Http
import CertSteward.Operation.Json
import CertSteward.Service
import CertSteward.Url.Reader

/-!
# The service over HTTP

A client knows the address of the service, the token it shows and the name it
goes by. Every call is one request under the project's global resources; a
listing asks for one page after the other.
-/

namespace CertSteward

set_option autoImplicit false

open CertSteward.Json (Decoder)

def defaultApiUrl : String := "https://compute.googleapis.com/compute/v1/"

def defaultUserAgent : String := "managed-certs/0.3.0"

structure Client where
  baseUrl : Url
  token : Option String
  userAgent : String
deriving DecidableEq, Repr

/-- What a client is made from. -/
structure ClientSettings where
  baseUrl : String
  token : Option String
  userAgent : String
deriving DecidableEq, Repr

def ClientSettings.default : ClientSettings :=
  ⟨defaultApiUrl, none, defaultUserAgent⟩

/-- The address of the service in its normal form, with a path that ends in a slash. -/
def ClientSettings.address (settings : ClientSettings) : Except ApiError Url :=
  match Url.read settings.baseUrl with
  | .error error => .error (.invalidUrl error.message)
  | .ok url => if url.isBase then .ok url.withOpenEnd else .error (.invalidUrl settings.baseUrl)

def ClientSettings.build (settings : ClientSettings) : Except ApiError Client := do
  let url ← settings.address
  if Http.isHeaderText settings.userAgent then .ok ⟨url, settings.token, settings.userAgent⟩
  else .error (.request .rejected)

namespace Client

/-- The client as shown, without its token. -/
def describe (client : Client) : String :=
  "ComputeClient \x7b base_url: " ++ Text.quoted client.baseUrl.text ++ ", authenticated: " ++
    (if client.token.isSome then "true" else "false") ++ ", .. \x7d"

def logEntry (level : LogLevel) (message : String) (fields : List (String × String)) : LogEntry :=
  ⟨level, "managed_certs::client", message, fields⟩

/-- A resource of a project, by the names on the way to it. -/
def resourceUrl (client : Client) (project : String) (names : List String) : Url :=
  client.baseUrl.extend (["projects", project, "global"] ++ names)

def certificates : String := "sslCertificates"

def operations : String := "operations"

def pageUrl (client : Client) (project : String) (pageToken : Option String) : Url :=
  let url := client.resourceUrl project [certificates]
  match pageToken with
  | some token => url.appendQuery "pageToken" token
  | none => url

def authorization (client : Client) : Option String :=
  client.token.map fun token => "Bearer " ++ token

def request (client : Client) (method : Http.Method) (url : Url) (body : Option Json.Value) :
    Http.Request :=
  ⟨method, url, client.authorization, client.userAgent, body⟩

/-- Whether a request can be sent: over HTTP, and with a token that fits a header. -/
def isSendable (request : Http.Request) : Bool :=
  (request.url.scheme == "http" || request.url.scheme == "https") &&
    (match request.authorization with
      | some value => Http.isHeaderText value
      | none => true)

/-- The part of a failure's body that is read. -/
structure ErrorBody where
  message : String

structure ErrorEnvelope where
  error : ErrorBody

def ErrorBody.shape : Json.Shape ErrorBody where
  name := "ErrorBody"
  blank := ⟨""⟩
  fields := [.defaulted "message" .text fun value record => { record with message := value }]

def ErrorEnvelope.shape : Json.Shape ErrorEnvelope where
  name := "ErrorEnvelope"
  blank := ⟨⟨""⟩⟩
  fields := [.needed "error" ErrorBody.shape.decoder fun value record =>
    { record with error := value }]

/-- What a failure says: its own message, else the words for its status if the body is empty,
else the body as text. -/
def failureMessage (status : Nat) (body : List UInt8) : String :=
  let own :=
    match ErrorEnvelope.shape.decoder.ofBytes body with
    | .ok envelope => envelope.error.message
    | .error _ => ""
  if !own.isEmpty then own
  else if body.isEmpty then (Http.reason? status).getD "unknown error"
  else Text.Utf8.decodeLossy body

/-- What an answer says to one who expects a value. -/
def interpret {α : Type} (decoder : Decoder α) : Http.Answer → Except ApiError α
  | .complete status body =>
      if Http.isSuccess status then (decoder.ofBytes body).mapError .decode
      else .error (.http status (failureMessage status body))
  | .broken => .error (.request .broken)
  | .timedOut => .error (.request .timedOut)

def requestEntry (request : Http.Request) : LogEntry :=
  logEntry .debug "Compute API request"
    [("method", request.method.name), ("url", request.url.text)]

def answerEntries : Http.Answer → List LogEntry
  | .complete status body =>
      [logEntry .trace "Compute API response"
        [("status", toString status), ("len", toString body.length)]]
  | _ => []

variable {State α : Type}

/-- One exchange: the result, what is logged, and the state of the transport after it. -/
def send (transport : Http.Transport State) (decoder : Decoder α) (request : Http.Request)
    (state : State) : Except ApiError α × List LogEntry × State :=
  if isSendable request then
    let (answer, state) := transport.exchange request state
    (interpret decoder answer, requestEntry request :: answerEntries answer, state)
  else (.error (.request .rejected), [requestEntry request], state)

/-- A call that is a single exchange. -/
def single (client : Client) (transport : Http.Transport State) (decoder : Decoder α)
    (method : Http.Method) (url : Url) (body : Option Json.Value) (state : State) :
    Reply α × State :=
  let (result, log, state) := send transport decoder (client.request method url body) state
  (⟨some result, 0, log⟩, state)

/-- Where a listing goes after a page. -/
inductive NextPage where
  | done
  | repeated (token : String)
  | page (token : String)
deriving DecidableEq, Repr

/-- A listing ends at a page that names no other page, or the one that it is. -/
def nextPage (pageToken : Option String) (page : CertificateList) : NextPage :=
  match page.nextPageToken with
  | none => .done
  | some token =>
      if token.isEmpty then .done
      else if pageToken = some token then .repeated token
      else .page token

/-- A listing from a page on, for at most so many pages, behind the items gathered before. -/
def listFrom (client : Client) (transport : Http.Transport State) (project : String) :
    Nat → Option String → List Certificate → State → Reply CertificateList × State
  | 0, _, _, state => (⟨none, 0, []⟩, state)
  | rounds + 1, pageToken, gathered, state =>
      let request := client.request .get (client.pageUrl project pageToken) none
      let (result, log, state) := send transport CertificateList.decoder request state
      match result with
      | .error error => (⟨some (.error error), 0, log⟩, state)
      | .ok page =>
          let gathered := gathered ++ page.items
          match nextPage pageToken page with
          | .done => (⟨some (.ok ⟨gathered, none⟩), 0, log⟩, state)
          | .repeated token =>
              (⟨some (.ok ⟨gathered, none⟩), 0,
                log ++ [logEntry .debug "Repeated page token, stopping list" [("token", token)]]⟩,
                state)
          | .page token =>
              let (reply, state) :=
                listFrom client transport project rounds (some token) gathered state
              (⟨reply.result, reply.took, log ++ reply.log⟩, state)

def list (client : Client) (transport : Http.Transport State) (rounds : Nat) (project : String)
    (state : State) : Reply CertificateList × State :=
  client.listFrom transport project rounds none [] state

def call (client : Client) (transport : Http.Transport State) (rounds : Nat) (project : String)
    (rpc : Rpc) (state : State) : Reply rpc.Result × State :=
  match rpc with
  | .insert certificate =>
      client.single transport Operation.decoder .post
        (client.resourceUrl project [certificates]) (some certificate.encode) state
  | .delete name =>
      client.single transport Operation.decoder .delete
        (client.resourceUrl project [certificates, name]) none state
  | .get name =>
      client.single transport Certificate.decoder .get
        (client.resourceUrl project [certificates, name]) none state
  | .list => client.list transport rounds project state
  | .operation name =>
      client.single transport Operation.decoder .get
        (client.resourceUrl project [operations, name]) none state

/-- The service as it answers over a transport, listings bounded by a number of pages. -/
def service (client : Client) (transport : Http.Transport State) (rounds : Nat) : Service State :=
  ⟨client.call transport rounds⟩

end Client

end CertSteward
