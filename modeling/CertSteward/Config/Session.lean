import CertSteward.Config.Store

/-!
# Sessions on a configuration

Steps on one current configuration, one tree of files and one environment.
-/

namespace CertSteward.Config

set_option autoImplicit false

inductive Step where
  | write (path : String) (bytes : List UInt8)
  | makeDirectory (path : String)
  | setVariable (name : String) (value : Option String)
  | load (path : String)
  | loadStandard
  | save (path : String)
  | tree
  | read (path : String)
  | standardPath
  | reset
  | setDefault (name : Option String)
  /-- Sets a profile from a JSON value. -/
  | setProfile (name : String) (value : Json.Value)
  | newProfile (name projectId : String)
  | removeProfile (name : String)
  | listProfiles
  | resolve (name : Option String)
  | profile (name : Option String)
  | timings (name : Option String)
  | validate (name : Option String)
  | token (name : Option String)
  | client (name : Option String)
  | manager (name : Option String)

inductive Answer where
  | silent
  | done
  | config (config : Config)
  /-- The configuration after a change, which is shown without any wrapping. -/
  | changed (config : Config)
  | removed (profile : Option Profile) (config : Config)
  | text (text : String)
  | optionalText (text : Option String)
  /-- The contents of a file as they are. -/
  | contents (text : String)
  /-- The lines of a file in ascending order. -/
  | lines (lines : List String)
  | names (names : List String)
  | profile (profile : Profile)
  | profiles (profiles : List (String × Profile))
  | timings (pollInterval requestTimeout : UInt64)
  | client (client : Client)
  | manager (manager : Manager)
  | configError (error : ConfigError)
  | stewardError (error : StewardError)
  | decodeError (error : Json.DecodeError)

structure Session where
  config : Config
  store : Store
  environment : Environment

namespace Session

def start (root : String) (environment : Environment) : Session :=
  ⟨.empty, ⟨root, []⟩, environment⟩

def orConfigError {α : Type} (answer : α → Answer) : Except ConfigError α → Answer
  | .ok value => answer value
  | .error error => .configError error

def orStewardError {α : Type} (answer : α → Answer) : Except StewardError α → Answer
  | .ok value => answer value
  | .error error => .stewardError error

def change (session : Session) (config : Config) : Answer × Session :=
  (.changed config, { session with config := config })

/-- Takes over a configuration that could be loaded. -/
def replace (session : Session) (loaded : Except ConfigError Config) : Answer × Session :=
  match loaded with
  | .ok config => (.config config, { session with config := config })
  | .error error => (.configError error, session)

def withTree (session : Session) (tree : Except FileFault FileTree) : Session :=
  match tree with
  | .ok tree => { session with store := { session.store with tree := tree } }
  | .error _ => session

/-- The lines of a text: each ends with a line feed, which a carriage return may precede, and what
follows the last line feed is a line unless it is empty. -/
def linesOf (text : String) : List String :=
  match (text.splitOn "\n").reverse with
  | [] => []
  | last :: ended =>
      let whole := ended.reverse.map fun line =>
        if line.endsWith "\r" then (line.dropEnd 1).toString else line
      if last.isEmpty then whole else whole ++ [last]

def sortLines (lines : List String) : List String :=
  lines.mergeSort fun left right => decide (left ≤ right)

/-- A file as it is, or its lines in order when the order of the tables in it says nothing. -/
def contents (session : Session) (path : String) : Answer :=
  match session.store.tree.readText (Path.ofText path) with
  | .ok (some text) =>
      if session.config.profiles.size ≤ 1 then .contents text
      else .lines (sortLines (linesOf text))
  | _ => .silent

/-- The answer of a step that needs a profile. -/
def withProfile (session : Session) (name : Option String) (answer : Profile → Answer) :
    Answer × Session :=
  (match session.config.profile name with
    | .ok profile => answer profile
    | .error error => .configError error,
    session)

def step (session : Session) : Step → Answer × Session
  | .write path bytes =>
      let place := Path.ofText path
      (.silent, session.withTree (do
        let tree ← session.store.tree.makeDirectory place.dropLast
        tree.write place bytes))
  | .makeDirectory path =>
      (.silent, session.withTree (session.store.tree.makeDirectory (Path.ofText path)))
  | .setVariable name value =>
      (.silent, { session with environment := session.environment.set name value })
  | .load path =>
      session.replace
        (session.store.load session.environment (joinPath session.store.root path))
  | .loadStandard => session.replace (session.store.loadStandard session.environment)
  | .save path =>
      match session.store.save session.config path with
      | .ok store => (.done, { session with store := store })
      | .error error => (.configError error, session)
  | .tree => (.names session.store.tree.names, session)
  | .read path => (session.contents path, session)
  | .standardPath =>
      (orConfigError .text (Config.standardPath session.environment), session)
  | .reset => session.change .empty
  | .setDefault name => session.change { session.config with defaultProfile := name }
  | .setProfile name value =>
      match Profile.jsonShape.decoder.ofValue value with
      | .ok profile => session.change (session.config.setProfile name profile)
      | .error error => (.decodeError error, session)
  | .newProfile name projectId =>
      session.change (session.config.setProfile name (.new projectId))
  | .removeProfile name =>
      let (removed, config) := session.config.removeProfile name
      (.removed removed config, { session with config := config })
  | .listProfiles => (.profiles session.config.listProfiles, session)
  | .resolve name => (orConfigError .text (session.config.resolveProfile name), session)
  | .profile name => session.withProfile name .profile
  | .timings name => session.withProfile name fun profile =>
      .timings profile.pollIntervalSecs profile.requestTimeoutSecs
  | .validate name => session.withProfile name fun profile =>
      orConfigError (fun _ => .done) profile.validate
  | .token name => session.withProfile name fun profile =>
      orConfigError .optionalText (profile.resolveToken session.environment)
  | .client name => session.withProfile name fun profile =>
      orStewardError .client (profile.client session.environment)
  | .manager name => session.withProfile name fun profile =>
      orStewardError (fun made => .manager made.1) (profile.manager session.environment)

/-- The answers of a run of steps. -/
def run (session : Session) : List Step → List Answer
  | [] => []
  | step :: rest =>
      let (answer, session) := session.step step
      answer :: session.run rest

end Session

end CertSteward.Config
