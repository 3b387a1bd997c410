import CertSteward.Mismatch

/-!
# Unreadable TOML

Why a TOML text is not a value of the expected type.
-/

namespace CertSteward.Toml

set_option autoImplicit false

inductive DecodeError where
  | malformed
  | mismatch (cause : Mismatch)
deriving DecidableEq, Repr

def DecodeError.message : DecodeError → String
  | .malformed => "*"
  | .mismatch cause => cause.message

end CertSteward.Toml
