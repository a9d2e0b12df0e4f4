import ApiConsole.Json.Reader
import ApiConsole.Text.Case
import ApiConsole.Url.Host

/-!
# Requests

A request is put together from a base URL and the editable path, query and body. The path begins
with exactly one slash, the query without a question mark; blanks at the ends of each part and
slashes at the end of the base are dropped. A path may have places that are left to fill in. Before a
request is sent, its body is checked: one that is blank or that belongs to a GET request is dropped,
any other has to be JSON and is sent as it is.
-/
namespace ApiConsole

/-! ## Refused input

Why a piece of input does not name what it should: a base URL, a method, a body, an endpoint, a
category or an export target. -/

/-- Why a base URL is not usable. -/
inductive BaseUrlFault where
  | malformed (fault : Url.Fault) (text : String)
  | unsupportedScheme (scheme : String) (text : String)
  deriving DecidableEq, Repr

def BaseUrlFault.message : BaseUrlFault → String
  | .malformed fault text => fault.message ++ ": " ++ text
  | .unsupportedScheme scheme text => s!"unsupported scheme '{scheme}': {text}"

inductive Refusal where
  | invalidUrl (fault : BaseUrlFault)
  | unsupportedMethod (text : String)
  | invalidBody (error : Json.ParseError)
  | unknownEndpoint (text : String)
  | unknownCategory (text : String)
  | unknownTarget (text : String)
  deriving DecidableEq, Repr

def Refusal.message : Refusal → String
  | .invalidUrl fault => "invalid URL: " ++ fault.message
  | .unsupportedMethod text => "unsupported HTTP method: " ++ text
  | .invalidBody error => "invalid body: " ++ error.message
  | .unknownEndpoint text => "unknown endpoint: " ++ text
  | .unknownCategory text => "unknown category: " ++ text
  | .unknownTarget text => "unknown snippet target: " ++ text

/-! ## Methods

The four methods that endpoints use. All but GET carry a body. A method is read from its name in any
letter case. -/

inductive Method where
  | get
  | post
  | put
  | delete
  deriving DecidableEq, Repr

namespace Method

def all : List Method := [get, post, put, delete]

def name : Method → String
  | get => "GET"
  | post => "POST"
  | put => "PUT"
  | delete => "DELETE"

/-- Whether a draft is sent along. -/
def carriesBody (m : Method) : Bool := m != get

/-- The method with a given name. -/
def ofName? (name : String) : Option Method := all.find? (·.name == name)

/-- Reads a method; the refusal shows the text in upper case. -/
def parse (text : String) : Except Refusal Method :=
  let name := String.ofList (Text.upper text.toList)
  match ofName? name with
  | some m => .ok m
  | none => .error (.unsupportedMethod name)

@[simp] theorem carriesBody_eq_false_iff {m : Method} : m.carriesBody = false ↔ m = get := by
  cases m <;> decide

theorem carriesBody_iff {m : Method} : m.carriesBody = true ↔ m ≠ get := by
  cases m <;> decide

theorem ofName?_name (m : Method) : ofName? m.name = some m := by
  cases m <;> decide

end Method

/-! ## Composing -/

/-- A request that is ready to be sent or exported. -/
structure Request where
  method : Method
  url : String
  body : Option String
  deriving DecidableEq, Repr

/-- A path with one slash at its start. -/
def normalizePath (path : String) : String :=
  String.ofList ('/' :: (Text.trim path.toList).dropWhile (· == '/'))

/-- A query without blanks at its ends and without its question mark. -/
def normalizeQuery (query : String) : String :=
  String.ofList (match Text.trim query.toList with
    | '?' :: rest => rest
    | rest => rest)

/-- A base URL without blanks at its ends and slashes at its end. -/
def normalizeBase (base : String) : String :=
  String.ofList (Text.dropEndWhile (· == '/') (Text.trim base.toList))

/-- The URL of a path and a query under a base URL. -/
def composeUrl (base path query : String) : String :=
  let url := normalizeBase base ++ normalizePath path
  let query := normalizeQuery query
  if query.isEmpty then url else url ++ "?" ++ query

/-- The request of the editable parts. -/
def composeRequest (base : String) (method : Method) (path query body : String) : Request :=
  { method := method
    url := composeUrl base path query
    body := if method.carriesBody then some body else none }

@[simp] theorem composeRequest_body_get (base path query body : String) :
    (composeRequest base .get path query body).body = none := rfl

/-! ## Placeholders

The places of a path that are left to fill in: a name in braces, or a name behind a colon at the
start of a segment. A path is searched from left to right, and a placeholder that has been found is
passed over before the search goes on. -/

/-- A placeholder of a path: its name, and the text that stands for it in the path. -/
structure Placeholder where
  name : String
  literal : String
  deriving DecidableEq, Repr

namespace Placeholder

/-- A placeholder in braces. -/
def braced (name : List Char) : Placeholder :=
  ⟨String.ofList name, String.ofList ('\x7b' :: name ++ ['\x7d'])⟩

/-- A placeholder behind a colon. -/
def colon (name : List Char) : Placeholder :=
  ⟨String.ofList name, String.ofList (':' :: name)⟩

def isNameStart (c : Char) : Bool := c.isAlpha || c == '_'

def isNameChar (c : Char) : Bool := c.isAlphanum || c == '_' || c == '-'

/-- Whether a character ends a name in braces, or spoils it. -/
def stopsName (c : Char) : Bool := c == '/' || c == '\x7b' || c == '\x7d'

/-- The placeholder behind an opening brace, and what follows it. -/
def afterBrace (s : List Char) : Option (Placeholder × List Char) :=
  let name := s.takeWhile (!stopsName ·)
  match name, s.dropWhile (!stopsName ·) with
  | _ :: _, '\x7d' :: rest => some (braced name, rest)
  | _, _ => none

/-- The placeholder behind a colon, and what follows it. -/
def afterColon (s : List Char) : Option (Placeholder × List Char) :=
  match s with
  | c :: _ =>
    if isNameStart c then some (colon (s.takeWhile isNameChar), s.dropWhile isNameChar) else none
  | [] => none

/-- The placeholder that begins exactly here; `start` tells that this is the start of the path. -/
def here (start : Bool) : List Char → Option (Placeholder × List Char)
  | '\x7b' :: rest => afterBrace rest
  | '/' :: ':' :: rest => afterColon rest
  | ':' :: rest => if start then afterColon rest else none
  | _ => none

/-- The placeholders of the rest of a path, found in at most `rounds` steps. -/
def scan : Nat → Bool → List Char → List Placeholder
  | 0, _, _ => []
  | _ + 1, _, [] => []
  | rounds + 1, start, c :: rest =>
    match here start (c :: rest) with
    | some (p, tail) => p :: scan rounds false tail
    | none => scan rounds false rest

/-- What is said of a placeholder that was not filled in. -/
def warning (p : Placeholder) : String :=
  s!"path placeholder '{p.literal}' is unresolved and will be sent literally"

end Placeholder

/-- The placeholders of a path, from left to right. -/
def placeholders (path : String) : List Placeholder :=
  Placeholder.scan (path.length + 1) true path.toList

/-! ## Checking -/

/-- The body that a request sends, if it has one. -/
def Request.sentBody (r : Request) : Option String :=
  r.body.filter fun body => r.method.carriesBody && !Text.isBlankString body

/-- The request that is sent for `r`, or the reason why its body is refused. -/
def Request.prepare (r : Request) : Except Json.ParseError Request :=
  match r.sentBody with
  | none => .ok { r with body := none }
  | some body =>
    match Json.parse body with
    | .error e => .error e
    | .ok _ => .ok { r with body := some body }

/-- What is said of a body that is refused before it is sent. -/
def invalidBodyMessage (e : Json.ParseError) : String := "invalid JSON body: " ++ e.message

/-- The indented form of a JSON text. -/
def formatJson (text : String) : Except Refusal String :=
  match Json.parse text with
  | .ok v => .ok v.pretty
  | .error e => .error (.invalidBody e)

end ApiConsole
