import CertSteward.Toml.Fault

/-!
# Configuration errors

What can go wrong between a configuration file and a usable profile.
-/

namespace CertSteward

set_option autoImplicit false

/-- Why a file could not be read or written. -/
inductive FileFault where
  | fileExists
  | notADirectory
  | isADirectory
  | notText
deriving DecidableEq, Repr

def FileFault.message : FileFault → String
  | .fileExists => "File exists (os error 17)"
  | .notADirectory => "Not a directory (os error 20)"
  | .isADirectory => "Is a directory (os error 21)"
  | .notText => "stream did not contain valid UTF-8"

inductive ConfigError where
  | load (path : String) (fault : FileFault)
  | save (path : String) (fault : FileFault)
  | parse (cause : Toml.DecodeError)
  | profileNotFound (name : String)
  | noProfileSelected (suggestion : String)
  | invalidProfile (complaint : String)
  | unsetVariable (complaint : String)
  | noConfigDirectory
deriving DecidableEq, Repr

def ConfigError.message : ConfigError → String
  | .load path fault => "Failed to load config from " ++ path ++ ": " ++ fault.message
  | .save path fault => "Failed to save config to " ++ path ++ ": " ++ fault.message
  | .parse cause => "Failed to parse config: " ++ cause.message
  | .profileNotFound name => "Profile '" ++ name ++ "' not found"
  | .noProfileSelected suggestion => "No profile selected. " ++ suggestion
  | .invalidProfile complaint => "Invalid profile: " ++ complaint
  | .unsetVariable complaint => "Environment variable expansion failed: " ++ complaint
  | .noConfigDirectory => "Failed to determine config directory"

end CertSteward
