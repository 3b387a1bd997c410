import CertSteward.Profile
import CertSteward.Toml.Decode

/-!
# Profiles as JSON and as TOML values

The same five members in both formats, with the same defaults.
-/

namespace CertSteward.Profile

set_option autoImplicit false

def largestSeconds : Int := Int.pow 2 64 - 1

def secondsJson : Json.Decoder UInt64 := fun source document =>
  (Json.Decoder.integer "u64" 0 largestSeconds source document).map fun value =>
    UInt64.ofNat value.toNat

def secondsToml : Toml.Decoder UInt64 := fun value =>
  (Toml.Decoder.natural "u64" largestSeconds value).map fun value => UInt64.ofNat value.toNat

def encode (profile : Profile) : Json.Value :=
  .object (
    [("project_id", .text profile.projectId), ("api_url", .text profile.apiUrl)] ++
    Json.optionalMember "access_token" .text profile.accessToken ++
    [("poll_interval_secs", .nat profile.pollIntervalSecs.toNat),
      ("request_timeout_secs", .nat profile.requestTimeoutSecs.toNat)])

def jsonShape : Json.Shape Profile where
  name := "Profile"
  blank := .new ""
  fields := [
    .needed "project_id" .text fun value record => { record with projectId := value },
    .defaulted "api_url" .text fun value record => { record with apiUrl := value },
    .defaulted "access_token" (.optional .text) fun value record =>
      { record with accessToken := value },
    .defaulted "poll_interval_secs" secondsJson fun value record =>
      { record with pollIntervalSecs := value },
    .defaulted "request_timeout_secs" secondsJson fun value record =>
      { record with requestTimeoutSecs := value }]

def tomlShape : Toml.Shape Profile where
  name := "Profile"
  blank := .new ""
  fields := [
    .needed "project_id" .text fun value record => { record with projectId := value },
    .defaulted "api_url" .text fun value record => { record with apiUrl := value },
    .defaulted "access_token" .text fun value record =>
      { record with accessToken := some value },
    .defaulted "poll_interval_secs" secondsToml fun value record =>
      { record with pollIntervalSecs := value },
    .defaulted "request_timeout_secs" secondsToml fun value record =>
      { record with requestTimeoutSecs := value }]

end CertSteward.Profile
