import CertSteward.Url.Host

/-!
# Reading URLs

An absolute URL: the scheme, then whatever the scheme calls for. Blanks and
controls around the text and tabs and line breaks within it are dropped. The
special schemes take backslashes for slashes and need a host; another scheme
has a host behind two slashes, and neither host nor segments without a slash.
-/

namespace CertSteward.Url

set_option autoImplicit false

/-- The text without the blanks and controls around it and the characters ignored within. -/
def clean (text : List Char) : List Char :=
  let isOuter := fun c : Char => c.toNat ≤ 0x20
  let front := text.dropWhile isOuter
  (front.reverse.dropWhile isOuter).reverse.filter fun c => !isIgnored c

def isSchemeChar (c : Char) : Bool :=
  c.isAlphanum || c == '+' || c == '-' || c == '.'

/-- The scheme in lower case, and what stands behind its colon. -/
def splitScheme (text : List Char) : Option (String × List Char) :=
  match text with
  | first :: _ =>
      if first.isAlpha then
        match text.dropWhile isSchemeChar with
        | ':' :: rest => some (lower (String.ofList (text.takeWhile isSchemeChar)), rest)
        | _ => none
      else none
  | [] => none

def defaultPort? (scheme : String) : Option Nat :=
  if scheme = "http" ∨ scheme = "ws" then some 80
  else if scheme = "https" ∨ scheme = "wss" then some 443
  else if scheme = "ftp" then some 21
  else none

def isSlash (special : Bool) (c : Char) : Bool :=
  c == '/' || (special && c == '\\')

/-- Whether a character ends the authority. -/
def endsAuthority (special : Bool) (c : Char) : Bool :=
  isSlash special c || c == '?' || c == '#'

/-- The text before the last at sign, if there is one, and the text after it. -/
def splitUser (text : List Char) : Option (List Char) × List Char :=
  let after := (text.reverse.takeWhile (· != '@')).reverse
  if after.length < text.length then (some (text.take (text.length - after.length - 1)), after)
  else (none, text)

def encodeUser (text : List Char) : String :=
  String.ofList (Percent.encode Percent.inUserinfo text)

/-- The name and the password of a user; an empty password is none. -/
def readUser (text : List Char) : String × Option String :=
  let name := text.takeWhile (· != ':')
  match text.drop (name.length + 1) with
  | [] => (encodeUser name, none)
  | password => (encodeUser name, some (encodeUser password))

/-- The host and what stands behind it; colons between brackets belong to the host. -/
def splitHost (inside : Bool) : List Char → List Char × List Char
  | [] => ([], [])
  | c :: rest =>
      if c = ':' ∧ inside = false then ([], c :: rest)
      else
        let (host, after) :=
          splitHost (if c = '[' then true else if c = ']' then false else inside) rest
        (c :: host, after)

/-- The port behind a colon. An empty port, or the usual one of the scheme, is none. -/
def readPort (scheme : String) (text : List Char) : Except UrlError (Option Nat) :=
  if text.all Char.isDigit then
    let port := text.foldl (fun total c => total * 10 + (c.toNat - 0x30)) 0
    if 65535 < port then .error .invalidPort
    else if text.isEmpty ∨ defaultPort? scheme = some port then .ok none
    else .ok (some port)
  else .error .invalidPort

/-- The authority; `followed` says that a path, a query or a fragment stands behind it, which
an at sign must not be next to. -/
def readAuthority (scheme : String) (text : List Char) (followed : Bool) :
    Except UrlError Authority := do
  let special := isSpecialScheme scheme
  let (user, rest) := splitUser text
  if user = some [] ∧ rest = [] ∧ followed then throw .emptyHost
  let (username, password) := readUser (user.getD [])
  let (host, after) := splitHost false rest
  if special ∧ host.isEmpty then throw .emptyHost
  let host ← if special then Host.read host else Host.readOpaque host
  if host.isEmpty ∧ (!after.isEmpty ∨ !username.isEmpty ∨ password.isSome) then throw .emptyHost
  let port ← readPort scheme (after.drop 1)
  return ⟨username, password, host, port⟩

/-- The segments between slashes. -/
def splitSegments (special : Bool) : List Char → List (List Char)
  | [] => [[]]
  | c :: rest =>
      if isSlash special c then [] :: splitSegments special rest
      else
        match splitSegments special rest with
        | [] => [[c]]
        | segment :: segments => (c :: segment) :: segments

def followAll (path : List String) : List (List Char) → List String
  | [] => path
  | [segment] => follow path true segment
  | segment :: rest => followAll (follow path false segment) rest

/-- The path behind its first slash. -/
def readSegments (special : Bool) (text : List Char) : List String :=
  followAll [] ((splitSegments special text).map (Percent.encode Percent.inPath))

/-- Without the first slash, where there is one. -/
def dropSlash (special : Bool) (text : List Char) : List Char :=
  match text with
  | c :: rest => if isSlash special c then rest else c :: rest
  | [] => []

/-- The path behind an authority. -/
def readPath (special : Bool) (text : List Char) : UrlPath :=
  if !special && text.isEmpty then .segments []
  else .segments (readSegments special (dropSlash special text))

/-- A text split into path, query and fragment. -/
def splitTail (text : List Char) : List Char × Option (List Char) × Option (List Char) :=
  let front := text.takeWhile (· != '#')
  let fragment := (text.drop front.length).tail?
  let path := front.takeWhile (· != '?')
  (path, (front.drop path.length).tail?, fragment)

def withTail (url : Url) (query fragment : Option (List Char)) : Url :=
  let escaped := if url.isSpecial then Percent.inSpecialQuery else Percent.inQuery
  { url with
    query := query.map fun text => String.ofList (Percent.encode escaped text)
    fragment := fragment.map fun text => String.ofList (Percent.encode Percent.inFragment text) }

/-- What stands behind two slashes: an authority and a path. -/
def readWithAuthority (scheme : String) (text : List Char) : Except UrlError Url := do
  let special := isSpecialScheme scheme
  let (front, query, fragment) := splitTail text
  let whole := front.takeWhile fun c => !endsAuthority special c
  let authority ← readAuthority scheme whole (whole.length < text.length)
  let path := readPath special (front.dropWhile fun c => !endsAuthority special c)
  return withTail ⟨scheme, some authority, path, none, none⟩ query fragment

/-- The name of a drive: a letter, and a colon or a bar. -/
def isDrive : List Char → Bool
  | [letter, mark] => letter.isAlpha && (mark == ':' || mark == '|')
  | _ => false

/-- Follows a segment of the path of a file. A drive in front is written with a colon, and two
dots do not lead out of a drive. -/
def followFile (path : List String) (last : Bool) (segment : List Char) : List String :=
  if path.isEmpty && isDrive segment then [String.ofList (segment.take 1 ++ [':'])]
  else if isDoubleDot segment && (path.getLast?.any fun name => isDrive name.toList) then
    path ++ (if last then [""] else [])
  else follow path last segment

def followAllInFile (path : List String) : List (List Char) → List String
  | [] => path
  | [segment] => followFile path true segment
  | segment :: rest => followAllInFile (followFile path false segment) rest

/-- Without the empty segments in front. -/
def dropEmptyFront (segments : List String) : List String :=
  match segments.dropWhile String.isEmpty with
  | [] => [""]
  | rest => rest

def fileHost (host : List Char) : Except UrlError String := do
  if host.isEmpty then return ""
  let host ← Host.read host
  return if host = "localhost" then "" else host

/-- The host and the path of a file. A drive is no host. -/
def splitFile (front : List Char) : List Char × List Char :=
  match front with
  | a :: b :: rest =>
      if isSlash true a && isSlash true b then
        let host := rest.takeWhile fun c => !isSlash true c
        if isDrive host then ([], rest) else (host, rest.dropWhile fun c => !isSlash true c)
      else ([], front)
  | _ => ([], front)

/-- A file URL: a host behind two slashes, or no host, and a path without empty segments in
front. A drive has no host. -/
def readFile (text : List Char) : Except UrlError Url := do
  let (front, query, fragment) := splitTail text
  let (host, path) := splitFile front
  let host ← fileHost host
  let segments := (splitSegments true (dropSlash true path)).map (Percent.encode Percent.inPath)
  let host := if segments.head?.any isDrive then "" else host
  let segments := dropEmptyFront (followAllInFile [] segments)
  return withTail ⟨"file", some ⟨"", none, host, none⟩, .segments segments, none, none⟩ query
    fragment

/-- A URL of another scheme. -/
def readOther (scheme : String) (text : List Char) : Except UrlError Url :=
  match text with
  | '/' :: '/' :: rest => readWithAuthority scheme rest
  | text =>
      let (front, query, fragment) := splitTail text
      let path :=
        match front with
        | '/' :: rest => UrlPath.segments (readSegments false rest)
        | front => .opaqueText (String.ofList (Percent.encode Percent.isControl front))
      .ok (withTail ⟨scheme, none, path, none, none⟩ query fragment)

def read (text : String) : Except UrlError Url :=
  match splitScheme (clean text.toList) with
  | none => .error .relativeWithoutBase
  | some (scheme, rest) =>
      if scheme = "file" then readFile rest
      else if isSpecialScheme scheme then
        readWithAuthority scheme (rest.dropWhile (isSlash true))
      else readOther scheme rest

end CertSteward.Url
