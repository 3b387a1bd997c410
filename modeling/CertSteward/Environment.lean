import CertSteward.Mapping

/-!
# Environment variables

The variables that hold a text. One that is set to bytes that are no text
counts as unset.
-/

namespace CertSteward

set_option autoImplicit false

abbrev Environment := Mapping String

namespace Environment

/-- The value of a variable unless it is unset or empty. -/
def nonEmpty? (environment : Environment) (name : String) : Option String :=
  (environment.get? name).filter fun value => !value.isEmpty

/-- Sets a variable, or unsets it. -/
def set (environment : Environment) (name : String) : Option String → Environment
  | some value => environment.insert name value
  | none => environment.erase name

end Environment

end CertSteward
