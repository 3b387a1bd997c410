import CertSteward.Certificate
import CertSteward.Json.Shape
import CertSteward.Timestamp.Reader

/-!
# Certificates as JSON

The members of each record in their order. Absent values are left out, and so
are an empty list of alternative names and an empty map of domain states. A
type that is not known reads as unspecified.
-/

namespace CertSteward

set_option autoImplicit false

open CertSteward.Json

def Timestamp.wanted : String :=
  "an RFC 3339 formatted date and time string"

def Timestamp.decoder : Decoder Timestamp := fun _ document =>
  match document with
  | .text value =>
      match Timestamp.ofText? value with
      | some stamp => .ok stamp
      | none => mismatch .unreadableText
  | other => refuse Timestamp.wanted other

def Timestamp.encode (stamp : Timestamp) : Value :=
  .text stamp.toText

namespace CertificateType

def tag : CertificateType → String
  | .managed => "MANAGED"
  | .selfManaged => "SELF_MANAGED"
  | .unspecified => "TYPE_UNSPECIFIED"

def ofTag (tag : String) : CertificateType :=
  if tag = "MANAGED" then .managed
  else if tag = "SELF_MANAGED" then .selfManaged
  else .unspecified

def encode (type : CertificateType) : Value :=
  .text type.tag

/-- A tag as the only name of an object whose value is null. -/
def fromObject (source : Source) (members : List (Option String × Document)) (ending : Ending) :
    Except DecodeError CertificateType :=
  match source, members with
  | .text, [] => do
      finish ending ()
      .error .malformed
  | .text, (none, _) :: _ => .error .malformed
  | .text, (some tag, item) :: rest => do
      Decoder.unit source item
      match rest, ending with
      | [], .closed => .ok (ofTag tag)
      | [], .broken fault => .error (.ofFault fault.taken)
      | _, _ => .error .malformed
  | .memory, [(some tag, item)] => do
      Decoder.unit source item
      .ok (ofTag tag)
  | .memory, _ => mismatch (.wrongValue .map "map with a single key")

/-- A tag, alone or as the only name of an object. -/
def decoder : Decoder CertificateType := fun source document =>
  match source, document with
  | _, .text tag => .ok (ofTag tag)
  | _, .object members ending => fromObject source members ending
  | .text, .absent => .error .truncated
  | .text, .garbledText => .error .malformed
  | .text, .brokenText fault => .error (.ofFault fault.taken)
  | .text, _ => .error .malformed
  | .memory, other => refuse "string or map" other

end CertificateType

namespace ManagedCertificate

def encode (part : ManagedCertificate) : Value :=
  .object (
    [("domains", .texts part.domains)] ++
    optionalMember "status" .text part.status ++
    (if part.domainStatus.isEmpty then []
      else [("domainStatus",
        .object (part.domainStatus.entries.map fun entry => (entry.1, .text entry.2)))]))

def shape : Shape ManagedCertificate where
  name := "ManagedCertificate"
  blank := blank
  fields := [
    .defaulted "domains" (.sequence .text) fun value record => { record with domains := value },
    .defaulted "status" (.optional .text) fun value record => { record with status := value },
    .defaulted "domainStatus" (.mapping .text) fun value record =>
      { record with domainStatus := value }]

end ManagedCertificate

namespace Certificate

def encode (certificate : Certificate) : Value :=
  .object (
    [("name", .text certificate.name), ("type", certificate.certificateType.encode)] ++
    optionalMember "managed" ManagedCertificate.encode certificate.managed ++
    optionalMember "id" .text certificate.id ++
    optionalMember "description" .text certificate.description ++
    optionalMember "selfLink" .text certificate.selfLink ++
    optionalMember "creationTimestamp" Timestamp.encode certificate.creationTimestamp ++
    optionalMember "expireTime" Timestamp.encode certificate.expireTime ++
    listMember "subjectAlternativeNames" .text certificate.subjectAlternativeNames)

def shape : Shape Certificate where
  name := "Certificate"
  blank := blank
  fields := [
    .needed "name" .text fun value record => { record with name := value },
    .defaulted "type" CertificateType.decoder fun value record =>
      { record with certificateType := value },
    .defaulted "managed" (.optional ManagedCertificate.shape.decoder) fun value record =>
      { record with managed := value },
    .defaulted "id" (.optional .text) fun value record => { record with id := value },
    .defaulted "description" (.optional .text) fun value record =>
      { record with description := value },
    .defaulted "selfLink" (.optional .text) fun value record => { record with selfLink := value },
    .defaulted "creationTimestamp" (.optional Timestamp.decoder) fun value record =>
      { record with creationTimestamp := value },
    .defaulted "expireTime" (.optional Timestamp.decoder) fun value record =>
      { record with expireTime := value },
    .defaulted "subjectAlternativeNames" (.sequence .text) fun value record =>
      { record with subjectAlternativeNames := value }]

def decoder : Decoder Certificate :=
  shape.decoder

end Certificate

namespace CertificateList

def encode (list : CertificateList) : Value :=
  .object (
    [("items", .array (list.items.map Certificate.encode))] ++
    optionalMember "nextPageToken" .text list.nextPageToken)

def shape : Shape CertificateList where
  name := "CertificateList"
  blank := blank
  fields := [
    .defaulted "items" (.sequence Certificate.decoder) fun value record =>
      { record with items := value },
    .defaulted "nextPageToken" (.optional .text) fun value record =>
      { record with nextPageToken := value }]

def decoder : Decoder CertificateList :=
  shape.decoder

end CertificateList

end CertSteward
