import CertSteward.Profile

/-!
# Configurations

Named profiles and the name of the one to use when none is given. Everything
that a configuration answers depends on the profiles and the default alone,
not on how they came to be.
-/

namespace CertSteward

set_option autoImplicit false

structure Config where
  defaultProfile : Option String
  profiles : Mapping Profile
deriving DecidableEq, Repr

namespace Config

def empty : Config :=
  ⟨none, .empty⟩

/-- The name to use: the one given, else the default, else that of the only profile. -/
def resolveProfile (config : Config) (explicit : Option String) : Except ConfigError String :=
  match explicit, config.defaultProfile, config.profiles.names with
  | some name, _, _ => .ok name
  | none, some name, _ => .ok name
  | none, none, [name] => .ok name
  | none, none, [] => .error (.noProfileSelected "No profiles configured.")
  | none, none, names =>
      .error (.noProfileSelected
        ("Available profiles: " ++ ", ".intercalate names ++
          ". Set default_profile or pick one explicitly."))

def profile (config : Config) (explicit : Option String) : Except ConfigError Profile := do
  let name ← config.resolveProfile explicit
  match config.profiles.get? name with
  | some profile => .ok profile
  | none => .error (.profileNotFound name)

def setProfile (config : Config) (name : String) (profile : Profile) : Config :=
  { config with profiles := config.profiles.insert name profile }

/-- Removes a profile, and the default if it is that one. -/
def removeProfile (config : Config) (name : String) : Option Profile × Config :=
  (config.profiles.get? name,
    { defaultProfile := if config.defaultProfile = some name then none else config.defaultProfile
      profiles := config.profiles.erase name })

/-- The profiles in the order of their names. -/
def listProfiles (config : Config) : List (String × Profile) :=
  config.profiles.toList

end Config

end CertSteward
