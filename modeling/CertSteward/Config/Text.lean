import CertSteward.Config
import CertSteward.Config.Expansion
import CertSteward.Profile.Format
import CertSteward.Toml.Writer

/-!
# The text of a configuration

The default profile in front, and a table for each profile. A text is read
after the references to variables in it have been replaced, wherever they
stand.
-/

namespace CertSteward.Config

set_option autoImplicit false

def encode (config : Config) : Json.Value :=
  .object (
    Json.optionalMember "default_profile" .text config.defaultProfile ++
    [("profiles",
      .object (config.profiles.entries.map fun entry => (entry.1, entry.2.encode)))])

def writeAssignment (name : String) (value : List Char) : List Char :=
  name.toList ++ ' ' :: '=' :: ' ' :: (value ++ ['\n'])

def writeText (name value : String) : List Char :=
  writeAssignment name (Toml.writeText value)

def writeSeconds (name : String) (seconds : UInt64) : List Char :=
  writeAssignment name (Nat.toDigits 10 seconds.toNat)

def writeProfile (profile : Profile) : List Char :=
  writeText "project_id" profile.projectId ++ writeText "api_url" profile.apiUrl ++
    (match profile.accessToken with
      | some token => writeText "access_token" token
      | none => []) ++
    writeSeconds "poll_interval_secs" profile.pollIntervalSecs ++
    writeSeconds "request_timeout_secs" profile.requestTimeoutSecs

def writeTable (name : String) (profile : Profile) : List Char :=
  "[profiles.".toList ++ Toml.writeKey name ++ ']' :: '\n' :: writeProfile profile

def writeTables : List (String × Profile) → List Char
  | [] => "[profiles]\n".toList
  | [(name, profile)] => writeTable name profile
  | (name, profile) :: rest => writeTable name profile ++ '\n' :: writeTables rest

/-- The text of a configuration, tables apart by an empty line. -/
def write (config : Config) : List Char :=
  (match config.defaultProfile with
    | some name => writeText "default_profile" name ++ ['\n']
    | none => []) ++
    writeTables config.profiles.toList

def shape : Toml.Shape Config where
  name := "Config"
  blank := .empty
  fields := [
    .defaulted "default_profile" .text fun value record =>
      { record with defaultProfile := some value },
    .defaulted "profiles" (.mapping Profile.tomlShape.decoder) fun value record =>
      { record with profiles := value }]

/-- The configuration of a text as it stands. -/
def decode (text : List Char) : Except Toml.DecodeError Config :=
  Toml.Decoder.ofText shape.decoder text

/-- The configuration of a text with its references replaced. -/
def read (environment : Environment) (text : List Char) : Except ConfigError Config :=
  (decode (expand environment text)).mapError .parse

end CertSteward.Config
