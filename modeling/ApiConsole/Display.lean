import ApiConsole.Endpoint
import ApiConsole.History
import ApiConsole.Request
import ApiConsole.Text.Basic

/-!
# Display

Texts for the operator: tables of endpoints and of the history, the request that would be sent, a
response with advice where it failed. Columns are filled with spaces; a text that is too long for
its column moves the rest of its line.
-/
namespace ApiConsole.Display

open Text

/-- Lines with line breaks between them. -/
def lines (texts : List String) : String := String.intercalate "\n" texts

/-! ## Endpoints -/

/-- Key, method, path and name of an endpoint. -/
def endpointLine (e : Endpoint) : String :=
  s!"{padRight 24 e.id.key} {padRight 6 e.method.name} {padRight 40 e.path} {e.name}"

/-- A line for each endpoint. -/
def catalogTable (endpoints : List Endpoint) : String :=
  if endpoints.isEmpty then "No endpoints match." else lines (endpoints.map endpointLine)

/-- A line for each category with the number of its endpoints. -/
def categoryCounts (counts : List (Category × Nat)) : String :=
  lines (counts.map fun (c, n) => s!"{padRight 10 c.key} {n}")

/-! ## Requests -/

def warningLine (p : Placeholder) : String := "warning: " ++ p.warning

/-- What a request would send as its body, set off by an empty line. -/
def bodyPreview (r : Request) : String :=
  if r.method.carriesBody then
    match r.body.filter (!isBlankString ·) with
    | some body => "\n\n" ++ body
    | none => ""
  else s!"\n(no body: {r.method.name})"

/-- The request that would be sent for an endpoint, with warnings about its path. -/
def requestPreview (e : Endpoint) (r : Request) (warnings : List Placeholder) : String :=
  lines (s!"{e.name} ({e.id.key})" :: s!"{r.method.name} {r.url}" :: warnings.map warningLine) ++
    bodyPreview r

/-! ## Responses -/

def suggestionLines (k : FailureKind) : String :=
  String.join (k.suggestions.map fun text => "\n  - " ++ text)

/-- A kind of failure with its message; a text that is no JSON gets no advice. -/
def failureText (k : FailureKind) (error : Option String) : String :=
  let message := match error with
    | some text => ": " ++ text
    | none => ""
  "\n" ++ k.title ++ message ++ (if k == .parse then "" else suggestionLines k)

/-- Status and duration, the failure if there is one, and the text of a response. -/
def response (r : Response) : String :=
  let failure := match r.failureKind with
    | some k => failureText k r.error
    | none => ""
  let view := r.structuredView
  s!"{Response.statusText r.status} in {r.durationText}" ++ failure ++
    (if view.isEmpty then "" else "\n\n" ++ view)

/-- What is said of a body that was refused. -/
def validationError (message : String) : String :=
  FailureKind.validation.title ++ ": " ++ message ++ suggestionLines .validation

/-! ## History -/

/-- A numbered line for an entry. -/
def historyLine (now : Timestamp) (number : Nat) (e : HistoryEntry) : String :=
  s!"{padLeft 2 (toString number)}. {padRight 3 e.statusText} {padRight 6 e.method.name} " ++
    s!"{padRight 40 e.target} {padLeft 7 e.durationText}  {e.timestamp.ago now}"

/-- The entries of a history, numbered from one. -/
def history (entries : List HistoryEntry) (now : Timestamp) : String :=
  if entries.isEmpty then "History is empty."
  else lines ((entries.zipIdx 1).map fun (e, number) => historyLine now number e)

end ApiConsole.Display
