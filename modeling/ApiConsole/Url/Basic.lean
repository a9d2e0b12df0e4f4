import ApiConsole.Url.Host

/-!
# URLs

An absolute URL: a scheme, perhaps a server with credentials and a port, a path, and perhaps a
query and a fragment. The path is a list of segments, or bare text for URLs without any slash
behind the scheme. The parts are kept in the form in which they are written.
-/
namespace ApiConsole

namespace Url

/-- The server part of a URL. -/
structure Authority where
  username : String
  password : String
  host : Host
  port : Option Nat
  deriving DecidableEq, Repr

inductive Path where
  | segments (parts : List String)
  | bare (text : String)
  deriving DecidableEq, Repr

end Url

structure Url where
  scheme : String
  authority : Option Url.Authority
  path : Url.Path
  query : Option String
  fragment : Option String
  deriving DecidableEq, Repr

namespace Url

/-! ## Schemes -/

/-- What is known of a scheme. -/
inductive SchemeKind where
  | server
  | file
  | other
  deriving DecidableEq, Repr

def schemeKind (scheme : String) : SchemeKind :=
  if ["http", "https", "ws", "wss", "ftp"].contains scheme then .server
  else if scheme == "file" then .file else .other

/-- The port that need not be written. -/
def defaultPort (scheme : String) : Option Nat :=
  if scheme == "http" || scheme == "ws" then some 80
  else if scheme == "https" || scheme == "wss" then some 443
  else if scheme == "ftp" then some 21 else none

/-- The host of a URL, if it has one that is not empty. -/
def host? (u : Url) : Option Host :=
  u.authority.bind fun a => if a.host == .name "" then none else some a.host

/-- The port that a request to the URL goes to. -/
def port? (u : Url) : Option Nat :=
  (u.authority.bind (·.port)).or (defaultPort u.scheme)

/-- Whether requests can be sent to the URL. -/
def isHttp (u : Url) : Bool := u.scheme == "http" || u.scheme == "https"

/-- The URL without user name and password. -/
def withoutCredentials (u : Url) : Url :=
  { u with authority := u.authority.map fun a => { a with username := "", password := "" } }

/-! ## Text -/

/-- User name and password in front of the host. -/
def Authority.credentialsText (a : Authority) : String :=
  let password := if a.password.isEmpty then "" else ":" ++ a.password
  if a.username.isEmpty && a.password.isEmpty then "" else a.username ++ password ++ "@"

def Authority.text (a : Authority) : String :=
  let port := match a.port with
    | some n => ":" ++ toString n
    | none => ""
  a.credentialsText ++ a.host.text ++ port

def Path.text : Path → String
  | .segments parts => String.join (parts.map ("/" ++ ·))
  | .bare text => text

/-- The written form. A path that begins with two slashes gets a dot segment in front where it
could be taken for a server. -/
def text (u : Url) : String :=
  let server := match u.authority with
    | some a => "//" ++ a.text
    | none => if u.path.text.startsWith "//" then "/." else ""
  let query := match u.query with
    | some q => "?" ++ q
    | none => ""
  let fragment := match u.fragment with
    | some f => "#" ++ f
    | none => ""
  u.scheme ++ ":" ++ server ++ u.path.text ++ query ++ fragment

end Url

end ApiConsole
