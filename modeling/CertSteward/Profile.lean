import CertSteward.Client
import CertSteward.Config.Error
import CertSteward.Environment
import CertSteward.Manager
import CertSteward.StewardError
import CertSteward.Text.Blank

/-!
# Profiles

A profile names a project, the address of the service, the token to show and
two lengths of time in seconds. It is checked before a client is made from
it.
-/

namespace CertSteward

set_option autoImplicit false

structure Profile where
  projectId : String
  apiUrl : String
  accessToken : Option String
  pollIntervalSecs : UInt64
  requestTimeoutSecs : UInt64
deriving DecidableEq, Repr

/-- The variable that holds the token of profiles without one. -/
def accessTokenVariable : String := "GOOGLE_OAUTH_ACCESS_TOKEN"

namespace Profile

def new (projectId : String) : Profile :=
  ⟨projectId, defaultApiUrl, none, 10, 30⟩

def validate (profile : Profile) : Except ConfigError Unit :=
  if (Text.trim profile.projectId).isEmpty then
    .error (.invalidProfile "project_id must not be empty")
  else if profile.pollIntervalSecs = 0 then
    .error (.invalidProfile "poll_interval_secs must be at least 1")
  else if profile.requestTimeoutSecs = 0 then
    .error (.invalidProfile "request_timeout_secs must be at least 1")
  else .ok ()

/-- Whether a text holds a reference that was left as it stands. -/
def hasReference : List Char → Bool
  | [] => false
  | '$' :: '\x7b' :: _ => true
  | _ :: rest => hasReference rest

/-- The token to show: the profile's own unless it is empty, else that of the environment. -/
def resolveToken (profile : Profile) (environment : Environment) :
    Except ConfigError (Option String) :=
  match profile.accessToken with
  | some token =>
      if hasReference token.toList then
        .error (.unsetVariable ("access_token references an unset variable: " ++ token))
      else if token.isEmpty then .ok (environment.nonEmpty? accessTokenVariable)
      else .ok (some token)
  | none => .ok (environment.nonEmpty? accessTokenVariable)

def client (profile : Profile) (environment : Environment) : Except StewardError Client := do
  profile.validate.mapError .config
  let token ← (profile.resolveToken environment).mapError .config
  let settings : ClientSettings :=
    { ClientSettings.default with baseUrl := profile.apiUrl, token := token }
  settings.build.mapError .api

/-- The interval between two fetches in nanoseconds. -/
def pollInterval (profile : Profile) : Nat :=
  profile.pollIntervalSecs.toNat * 1000000000

/-- A manager for the profile's project, with the client that it goes through. -/
def manager (profile : Profile) (environment : Environment) :
    Except StewardError (Manager × Client) := do
  let client ← profile.client environment
  return ((Manager.new profile.projectId).withPollInterval profile.pollInterval, client)

end Profile

end CertSteward
