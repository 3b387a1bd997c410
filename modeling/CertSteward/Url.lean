import CertSteward.Url.Percent

/-!
# URLs

A URL in its normal form, part by part. The path is a list of segments, each
behind a slash, or an opaque text for a URL that nothing can be relative to.
-/

namespace CertSteward

set_option autoImplicit false

structure Authority where
  username : String
  password : Option String
  host : String
  port : Option Nat
deriving DecidableEq, Repr

inductive UrlPath where
  | opaqueText (text : String)
  | segments (segments : List String)
deriving DecidableEq, Repr

structure Url where
  scheme : String
  authority : Option Authority
  path : UrlPath
  query : Option String
  fragment : Option String
deriving DecidableEq, Repr

inductive UrlError where
  | relativeWithoutBase
  | emptyHost
  | invalidPort
  | invalidIpv4
  | invalidIpv6
  | invalidInternationalName
  | invalidDomainCharacter
deriving DecidableEq, Repr

def UrlError.message : UrlError → String
  | .relativeWithoutBase => "relative URL without a base"
  | .emptyHost => "empty host"
  | .invalidPort => "invalid port number"
  | .invalidIpv4 => "invalid IPv4 address"
  | .invalidIpv6 => "invalid IPv6 address"
  | .invalidInternationalName => "invalid international domain name"
  | .invalidDomainCharacter => "invalid domain character"

/-- The schemes whose URLs have a host and may be written with backslashes. -/
def isSpecialScheme (scheme : String) : Bool :=
  scheme == "http" || scheme == "https" || scheme == "ws" || scheme == "wss" ||
    scheme == "ftp" || scheme == "file"

namespace UrlPath

def segmentsText (segments : List String) : String :=
  String.join (segments.map fun segment => "/" ++ segment)

def text : UrlPath → String
  | .opaqueText whole => whole
  | .segments parts => segmentsText parts

end UrlPath

namespace Authority

def text (authority : Authority) : String :=
  let password :=
    match authority.password with
    | some password => ":" ++ password
    | none => ""
  let user := authority.username ++ password
  let port :=
    match authority.port with
    | some port => ":" ++ toString port
    | none => ""
  (if user.isEmpty then "" else user ++ "@") ++ authority.host ++ port

end Authority

namespace Url

def isSpecial (url : Url) : Bool :=
  isSpecialScheme url.scheme

/-- What stands between the scheme and the path. Without a host, a path that begins with an
empty segment is kept apart from what would read as one. -/
def authorityText (url : Url) : String :=
  match url.authority, url.path with
  | some authority, _ => "//" ++ authority.text
  | none, .segments ("" :: _ :: _) => "/."
  | none, _ => ""

def queryText (url : Url) : String :=
  match url.query with
  | some query => "?" ++ query
  | none => ""

def fragmentText (url : Url) : String :=
  match url.fragment with
  | some fragment => "#" ++ fragment
  | none => ""

def text (url : Url) : String :=
  url.scheme ++ ":" ++ url.authorityText ++ url.path.text ++ url.queryText ++ url.fragmentText

/-- The part that is sent in a request. -/
def target (url : Url) : String :=
  url.path.text ++ url.queryText

/-- Whether paths can be put behind the URL. -/
def isBase (url : Url) : Bool :=
  match url.path with
  | .segments _ => true
  | .opaqueText _ => false

/-- Tabs and line breaks, which no URL contains. -/
def isIgnored (c : Char) : Bool :=
  c == '\t' || c == '\n' || c == '\r'

def lower (text : String) : String :=
  String.ofList (text.toList.map Char.toLower)

def isSingleDot (segment : List Char) : Bool :=
  let word := segment.map Char.toLower
  word == ['.'] || word == ['%', '2', 'e']

def isDoubleDot (segment : List Char) : Bool :=
  match segment.map Char.toLower with
  | ['.', '.'] => true
  | ['.', '%', '2', 'e'] => true
  | ['%', '2', 'e', '.'] => true
  | ['%', '2', 'e', '%', '2', 'e'] => true
  | _ => false

/-- Follows a segment; `last` says that none comes after it, so that a dot leaves an open end. -/
def follow (path : List String) (last : Bool) (segment : List Char) : List String :=
  if isDoubleDot segment then path.dropLast ++ (if last then [""] else [])
  else if isSingleDot segment then path ++ (if last then [""] else [])
  else path ++ [String.ofList segment]

/-- The segments without an open end. -/
def closeEnd (segments : List String) : List String :=
  if segments.getLast? = some "" ∧ 1 < segments.length then segments.dropLast else segments

/-- Puts a text behind the path as a segment of its own. The two dot segments are left out; a
path of a single empty segment gives way. -/
def pushSegment (special : Bool) (segments : List String) (text : String) : List String :=
  if text = "." ∨ text = ".." then segments
  else
    let escaped := if special then Percent.inSpecialPathSegment else Percent.inPathSegment
    let segment := Percent.encode escaped (text.toList.filter fun c => !isIgnored c)
    let front := if segments = [""] then [] else segments
    follow front true segment

/-- Puts texts behind the path as segments. -/
def extend (url : Url) (texts : List String) : Url :=
  match url.path with
  | .opaqueText _ => url
  | .segments segments =>
      { url with
        path := .segments (texts.foldl (pushSegment url.isSpecial) (closeEnd segments)) }

/-- Makes the path end in a slash. -/
def withOpenEnd (url : Url) : Url :=
  match url.path with
  | .opaqueText _ => url
  | .segments segments =>
      if segments.getLast? = some "" then url
      else { url with path := .segments (segments ++ [""]) }

/-- Puts a pair behind the query. -/
def appendQuery (url : Url) (name value : String) : Url :=
  let pair := String.ofList
    (Percent.encodeForm name.toList ++ '=' :: Percent.encodeForm value.toList)
  match url.query with
  | none => { url with query := some pair }
  | some query => { url with query := some (if query.isEmpty then pair else query ++ "&" ++ pair) }

end Url

end CertSteward
