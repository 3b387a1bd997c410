import CertSteward.Mapping
import CertSteward.Timestamp

/-!
# Certificates

SSL certificates of a project. A managed certificate names the domains that
the service keeps it valid for, and reports how provisioning stands.
-/

namespace CertSteward

set_option autoImplicit false

inductive CertificateType where
  | managed
  | selfManaged
  | unspecified
deriving DecidableEq, Repr

structure ManagedCertificate where
  domains : List String
  status : Option String
  domainStatus : Mapping String
deriving DecidableEq, Repr

structure Certificate where
  name : String
  certificateType : CertificateType
  managed : Option ManagedCertificate
  id : Option String
  description : Option String
  selfLink : Option String
  creationTimestamp : Option Timestamp
  expireTime : Option Timestamp
  subjectAlternativeNames : List String
deriving DecidableEq, Repr

structure CertificateList where
  items : List Certificate
  nextPageToken : Option String
deriving DecidableEq, Repr

def ManagedCertificate.blank : ManagedCertificate :=
  ⟨[], none, Mapping.empty⟩

namespace Certificate

def blank : Certificate :=
  ⟨"", .unspecified, none, none, none, none, none, none, []⟩

/-- The certificate to ask for: the name, the managed type and the domains, nothing else. -/
def forDomains (name : String) (domains : List String) : Certificate :=
  { blank with
    name := name
    certificateType := .managed
    managed := some { ManagedCertificate.blank with domains := domains } }

/-- The managed domains, none for a certificate without a managed part. -/
def domains (certificate : Certificate) : List String :=
  match certificate.managed with
  | some part => part.domains
  | none => []

end Certificate

def CertificateList.blank : CertificateList :=
  ⟨[], none⟩

end CertSteward
