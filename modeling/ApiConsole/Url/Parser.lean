import ApiConsole.Url.Basic

/-!
# Reading URLs

An absolute URL is read by cutting: blanks and controls at both ends are dropped and so are tabs and
line breaks anywhere; then the scheme ends at the first colon, the server at the first slash,
question mark or number sign, the path at the first question mark or number sign, and the query at
the first number sign.
-/
namespace ApiConsole.Url

/-! ## Cuts -/

/-- A text without controls and spaces at its ends and without tabs and line breaks. -/
def cleaned (s : List Char) : List Char :=
  let atEnd (c : Char) : Bool := c.toNat ≤ 0x20
  let front := s.dropWhile atEnd
  let inner := (front.reverse.dropWhile atEnd).reverse
  inner.filter fun c => !(c == '\t' || c == '\n' || c == '\r')

def isSchemeChar (c : Char) : Bool :=
  c.isAlphanum || c == '+' || c == '-' || c == '.'

/-- Cuts off the scheme, in lower case, and the colon behind it. -/
def cutScheme? (s : List Char) : Option (String × List Char) :=
  match s with
  | [] => none
  | c :: _ =>
    match c.isAlpha, s.dropWhile isSchemeChar with
    | true, ':' :: rest =>
      some (String.ofList ((s.takeWhile isSchemeChar).map Char.toLower), rest)
    | _, _ => none

/-- Whether a character ends the server part. -/
def endsServer (server : Bool) (c : Char) : Bool :=
  c == '/' || c == '?' || c == '#' || (server && c == '\\')

/-- Whether a character ends the path. -/
def endsPath (c : Char) : Bool := c == '?' || c == '#'

/-! ## Path, query and fragment -/

def isSingleDot (s : List Char) : Bool :=
  s.map Char.toLower == ['.'] || s.map Char.toLower == "%2e".toList

def isDoubleDot (s : List Char) : Bool :=
  let s := s.map Char.toLower
  s == "..".toList || s == "%2e.".toList || s == ".%2e".toList || s == "%2e%2e".toList

/-- A letter and a colon or bar. -/
def isDriveLetter (s : List Char) : Bool :=
  match s with
  | [a, b] => a.isAlpha && (b == ':' || b == '|')
  | _ => false

/-- Takes back the last segment; the drive letter of a file stays. -/
def popSegment (kind : SchemeKind) (done : List (List Char)) : List (List Char) :=
  match done with
  | [] => []
  | last :: before => if kind == .file && isDriveLetter last then last :: before else before

/-- Adds segments to those done, which are given last one first. Dot segments are resolved. -/
def resolveSegments (kind : SchemeKind) : List (List Char) → List (List Char) → List (List Char)
  | done, [] => done
  | done, s :: rest =>
    let atEnd (d : List (List Char)) := if rest.isEmpty then [] :: d else d
    if isDoubleDot s then resolveSegments kind (atEnd (popSegment kind done)) rest
    else if isSingleDot s then resolveSegments kind (atEnd done) rest
    else if kind == .file && done.all List.isEmpty && isDriveLetter s then
      resolveSegments kind [s.take 1 ++ [':']] rest
    else resolveSegments kind (percentEncode pathSet s :: done) rest

/-- The segments of a path text without its first slash. -/
def pathSegments (kind : SchemeKind) (s : List Char) : List (List Char) :=
  let slashed := if kind == .other then s else s.map fun c => if c == '\\' then '/' else c
  (resolveSegments kind [] (splitAll '/' slashed)).reverse

/-- A text without one slash at its start. -/
def dropSlash (kind : SchemeKind) : List Char → List Char
  | '/' :: rest => rest
  | '\\' :: rest => if kind == .other then '\\' :: rest else rest
  | s => s

/-- The path of segments; that of a file has no empty segments at its start. -/
def segmentPath (kind : SchemeKind) (s : List Char) : Path :=
  let segments := pathSegments kind (dropSlash kind s)
  let segments :=
    if kind == .file then
      match segments.dropWhile List.isEmpty with
      | [] => [[]]
      | rest => rest
    else segments
  .segments (segments.map String.ofList)

/-- The query and the fragment of a text that begins with one of their marks. -/
def queryAndFragment (kind : SchemeKind) (s : List Char) : Option String × Option String :=
  let fragment (t : List Char) : Option String :=
    match t with
    | '#' :: rest => some (String.ofList (percentEncode fragmentSet rest))
    | _ => none
  match s with
  | '?' :: rest =>
    let set := if kind == .other then querySet else specialQuerySet
    (some (String.ofList (percentEncode set (rest.takeWhile (· != '#')))),
      fragment (rest.dropWhile (· != '#')))
  | _ => (none, fragment s)

/-- The URL of a scheme and a server with what follows them; `rooted` builds the path. -/
def finish (scheme : String) (authority : Option Authority) (rooted : List Char → Path)
    (s : List Char) : Url :=
  let (query, fragment) := queryAndFragment (schemeKind scheme) (s.dropWhile (!endsPath ·))
  ⟨scheme, authority, rooted (s.takeWhile (!endsPath ·)), query, fragment⟩

/-! ## Server -/

/-- The text up to the last at-sign, if there is one, and the text behind it. -/
def cutCredentials (s : List Char) : Option (List Char) × List Char :=
  let host := (s.reverse.takeWhile (· != '@')).reverse
  if s.contains '@' then (some (s.take (s.length - host.length - 1)), host) else (none, s)

/-- User name and password of a credentials text. -/
def credentials (s : List Char) : String × String :=
  (String.ofList (percentEncode userinfoSet (s.takeWhile (· != ':'))),
    String.ofList (percentEncode userinfoSet (s.dropWhile (· != ':')).tail))

/-- The text of a host: up to a colon that stands outside brackets. -/
def cutHost : Bool → List Char → List Char × List Char
  | _, [] => ([], [])
  | inside, c :: rest =>
    if c == ':' && !inside then ([], c :: rest)
    else
      let inside := if c == '[' then true else if c == ']' then false else inside
      let (host, tail) := cutHost inside rest
      (c :: host, tail)

/-- Reads the digits of a port, which ends where the path begins. The default port of the scheme is
not kept. -/
def portNumber (scheme : String) (s : List Char) : Except Fault (Option Nat × List Char) :=
  let digits := s.takeWhile Char.isDigit
  let rest := s.dropWhile Char.isDigit
  let stops := match rest with
    | [] => true
    | c :: _ => endsServer true c
  match digitsValue? 10 digits with
  | some n =>
    if 65535 < n || !stops then .error .invalidPort
    else .ok (if digits.isEmpty || defaultPort scheme == some n then none else some n, rest)
  | none => .error .invalidPort

/-- Reads a port behind its colon, if there is one. -/
def optionalPort (scheme : String) (s : List Char) : Except Fault (Option Nat × List Char) :=
  match s with
  | ':' :: rest => portNumber scheme rest
  | _ => .ok (none, s)

/-- Reads the server part, and gives what follows it. -/
def server (scheme : String) (known : Bool) (s : List Char) :
    Except Fault (Authority × List Char) := do
  let after := s.dropWhile (!endsServer known ·)
  let (info, hostPort) := cutCredentials (s.takeWhile (!endsServer known ·))
  if info == some [] && hostPort.isEmpty && !after.isEmpty then throw .emptyHost
  let (hostText, portText) := cutHost false hostPort
  if known && hostText.isEmpty then throw .emptyHost
  let host ← if known then domainHost hostText else plainHost hostText
  if host == .name "" && portText.head? == some ':' then throw .emptyHost
  let (port, rest) ← optionalPort scheme (portText ++ after)
  let (username, password) := credentials (info.getD [])
  if host == .name "" && !(username.isEmpty && password.isEmpty) then throw .emptyHost
  pure (⟨username, password, host, port⟩, rest)

/-! ## Whole URLs -/

/-- Reads what follows the scheme of a server of a known kind, behind all slashes. -/
def serverUrl (scheme : String) (s : List Char) : Except Fault Url := do
  let (authority, rest) ← server scheme true (s.dropWhile fun c => c == '/' || c == '\\')
  pure (finish scheme (some authority) (segmentPath .server) rest)

/-- Whether a path begins with a drive letter. -/
def beginsWithDrive : Path → Bool
  | .segments (first :: _) => isDriveLetter first.toList
  | _ => false

/-- Reads what follows the scheme of a file. A server in front of a drive letter is dropped. -/
def fileUrl (s : List Char) : Except Fault Url := do
  let emptyServer : Authority := ⟨"", "", .name "", none⟩
  let isSlash (c : Char) : Bool := c == '/' || c == '\\'
  match s with
  | a :: b :: rest =>
    if isSlash a && isSlash b then
      let hostText := rest.takeWhile (!endsServer true ·)
      if hostText.isEmpty || isDriveLetter hostText then
        pure (finish "file" (some emptyServer) (segmentPath .file) rest)
      else
        let host ← domainHost hostText
        let url := finish "file" (some { emptyServer with host := host }) (segmentPath .file)
          (rest.dropWhile (!endsServer true ·))
        pure (if host == .name "localhost" || beginsWithDrive url.path
          then { url with authority := some emptyServer } else url)
    else pure (finish "file" (some emptyServer) (segmentPath .file) s)
  | _ => pure (finish "file" (some emptyServer) (segmentPath .file) s)

/-- The path behind a server of a scheme of unknown kind. -/
def plainPath (s : List Char) : Path :=
  if s.isEmpty then .segments [] else segmentPath .other s

/-- Reads what follows any other scheme. -/
def plainUrl (scheme : String) (s : List Char) : Except Fault Url :=
  match s with
  | '/' :: '/' :: rest => do
    let (authority, rest) ← server scheme false rest
    pure (finish scheme (some authority) plainPath rest)
  | '/' :: _ => pure (finish scheme none (segmentPath .other) s)
  | _ => pure (finish scheme none (fun t => .bare (String.ofList (percentEncode [] t))) s)

/-- Reads an absolute URL. -/
def parse (text : String) : Except Fault Url :=
  match cutScheme? (cleaned text.toList) with
  | none => .error .relative
  | some (scheme, rest) =>
    match schemeKind scheme with
    | .server => serverUrl scheme rest
    | .file => fileUrl rest
    | .other => plainUrl scheme rest

end ApiConsole.Url
