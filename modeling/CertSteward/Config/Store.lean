import CertSteward.Config.FileTree
import CertSteward.Config.Text

/-!
# Configurations in files

Where the configuration file is, and how configurations are loaded from and
saved to files. A file that is not there is an empty configuration.
-/

namespace CertSteward.Config

set_option autoImplicit false

/-- The variable that names the configuration file. -/
def pathVariable : String := "MANAGED_CERTS_CONFIG"

/-- A path text behind another. -/
def joinPath (front back : String) : String :=
  if front.endsWith "/" then front ++ back else front ++ "/" ++ back

/-- The directory of the user's configurations. One that is named by a relative path does not
count. -/
def userDirectory? (environment : Environment) : Option String :=
  match (environment.get? "XDG_CONFIG_HOME").filter fun path => path.startsWith "/" with
  | some directory => some directory
  | none => (environment.nonEmpty? "HOME").map fun home => joinPath home ".config"

def standardPath (environment : Environment) : Except ConfigError String :=
  match environment.nonEmpty? pathVariable with
  | some path => .ok path
  | none =>
      match userDirectory? environment with
      | some directory => .ok (joinPath (joinPath directory "managed-certs") "config.toml")
      | none => .error .noConfigDirectory

/-- A tree of files and the path text of its root. -/
structure Store where
  root : String
  tree : FileTree

namespace Store

/-- The path below the root, for a path text that leads there. -/
def locate? (store : Store) (path : String) : Option Path :=
  let front := joinPath store.root ""
  if path = store.root then some []
  else if path.startsWith front then
    some (Path.ofText (String.ofList (path.toList.drop front.length)))
  else none

def load (store : Store) (environment : Environment) (path : String) :
    Except ConfigError Config := do
  match store.locate? path with
  | none => .ok empty
  | some place =>
      match store.tree.readText place with
      | .error fault => .error (.load path fault)
      | .ok none => .ok empty
      | .ok (some text) => read environment text.toList

def loadStandard (store : Store) (environment : Environment) : Except ConfigError Config := do
  let path ← standardPath environment
  store.load environment path

/-- A path text without the slashes at its end. -/
def trimSlashes (path : List Char) : List Char :=
  (path.reverse.dropWhile (· == '/')).reverse

/-- The path text of the directory that holds a path. -/
def parentText (path : String) : String :=
  let front := ((trimSlashes path.toList).reverse.dropWhile (· != '/')).reverse
  String.ofList (trimSlashes front)

/-- Writes a file by its path text. What ends in a slash can only be a directory. -/
def writeFile (store : Store) (path : String) (bytes : List UInt8) :
    Except FileFault FileTree :=
  if path.endsWith "/" then .error .isADirectory
  else store.tree.write (Path.ofText path) bytes

/-- Saves a configuration below the root; the directories on the way are made. -/
def save (store : Store) (config : Config) (path : String) : Except ConfigError Store := do
  let whole := joinPath store.root path
  let parents := (Path.ofText path).dropLast
  let tree ← (store.tree.makeDirectory parents).mapError (.save (parentText whole))
  let bytes := Text.Utf8.encode (String.ofList config.write)
  let tree ← (writeFile { store with tree := tree } path bytes).mapError (.save whole)
  return { store with tree := tree }

end Store

end CertSteward.Config
