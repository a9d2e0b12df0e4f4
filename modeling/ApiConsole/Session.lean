import ApiConsole.Drafts
import ApiConsole.Request
import ApiConsole.Response.Images
import ApiConsole.Send

/-!
# Sessions

What an operator works on: the active endpoint, the drafts, path and query, the response on show and
the history. Sends may overlap. Each takes the next number when it begins, and every completed one
goes into the history, but only one that began after the send on show puts its response in its
place; so a slow response never hides a newer one. Restoring an entry counts as newer than all sends
that began before it.
-/
namespace ApiConsole

/-- The state of a session. The numbers of sends, `lastIssued` and `displayed`, have no bound here; a
run of 2^64 sends, for which 64 bits would not do, is out of reach. -/
structure Session where
  baseUrl : String
  imageRule : ImageRule
  modelHint : String
  active : EndpointId
  drafts : Drafts
  path : String
  query : String
  editor : String
  response : Option Response
  history : History
  validationError : Option String
  lastIssued : Nat
  displayed : Nat

/-- What restoring an entry changed: an endpoint became active, or only the texts changed. -/
inductive ReplayTarget where
  | endpoint (id : EndpointId)
  | textOnly
  deriving DecidableEq, Repr

/-- Why an operation on a session is refused. -/
inductive SessionFault where
  | refused (refusal : Refusal)
  | invalidBody (error : Json.ParseError)
  | unknownEntry (name : String)
  deriving DecidableEq, Repr

def SessionFault.message : SessionFault → String
  | .refused refusal => "domain error: " ++ refusal.message
  | .invalidBody error => invalidBodyMessage error
  | .unknownEntry name => "no history entry " ++ name

namespace Session

/-! ## Endpoints and drafts -/

/-- Makes an endpoint active, with its draft, its path and no query. -/
def select (s : Session) (id : EndpointId) : Session :=
  let drafts := s.drafts.seed id s.modelHint
  { s with
    active := id
    drafts := drafts
    editor := drafts.text id
    path := id.endpoint.path
    query := ""
    validationError := none }

/-- A session with the first endpoint active. -/
def start (baseUrl modelHint : String) (imageRule : ImageRule) : Session :=
  select
    { baseUrl := baseUrl
      imageRule := imageRule
      modelHint := modelHint
      active := .health
      drafts := .empty
      path := ""
      query := ""
      editor := ""
      response := none
      history := .empty History.defaultCapacity
      validationError := none
      lastIssued := 0
      displayed := 0 }
    .health

/-- Changes the model that templates name from now on. -/
def setModelHint (s : Session) (hint : String) : Session := { s with modelHint := hint }

/-- Puts a text into the editor and the draft of the active endpoint. -/
def editDraft (s : Session) (text : String) : Session :=
  { s with
    editor := text
    drafts := s.drafts.set s.active text
    validationError := none }

/-- Puts the template back into the draft of the active endpoint. -/
def resetDraft (s : Session) : Session := s.editDraft (s.active.templateText s.modelHint)

/-- Writes the draft afresh in indented form; gives the new text. -/
def formatDraft (s : Session) : Session × Except SessionFault String :=
  match formatJson s.editor with
  | .ok text => (s.editDraft text, .ok text)
  | .error refusal => (s, .error (.refused refusal))

/-! ## Requests -/

def setPath (s : Session) (path : String) : Session := { s with path := normalizePath path }

def setQuery (s : Session) (query : String) : Session := { s with query := normalizeQuery query }

/-- The request as it stands. -/
def composed (s : Session) : Request :=
  composeRequest s.baseUrl s.active.endpoint.method s.path s.query s.editor

/-- The placeholders left in the path. -/
def placeholders (s : Session) : List Placeholder := ApiConsole.placeholders s.path

/-! ## Sends -/

/-- Keeps a message about a body that was refused. -/
def recordValidationError (s : Session) (message : String) : Session :=
  { s with validationError := some message }

/-- Checks the request as it stands and issues it under the next number. -/
def beginSend (s : Session) : Session × Except SessionFault PendingSend :=
  match s.composed.prepare with
  | .error e => (s.recordValidationError (invalidBodyMessage e), .error (.invalidBody e))
  | .ok r =>
    ({ s with validationError := none, lastIssued := s.lastIssued + 1 },
      .ok
        { seq := s.lastIssued + 1
          request := r
          endpointName := s.active.endpoint.name
          path := s.path
          query := s.query })

/-- Whether a completed send would be put on show. -/
def isNewer (s : Session) (seq : Nat) : Bool := s.displayed < seq

/-- Records a completed send, and puts its response on show if it is newer. -/
def completeSend (s : Session) (seq : Nat) (outcome : Outcome) : Session :=
  let s' := { s with history := s.history.add outcome.entry }
  if s.isNewer seq then { s' with displayed := seq, response := some outcome.response } else s'

/-- Issues the request as it stands, executes it and records what it came to; gives its number. -/
def send (s : Session) (client : Request → Answer) (stamp : Stamp) :
    Session × Except SessionFault Nat :=
  match s.beginSend with
  | (s, .error fault) => (s, .error fault)
  | (s, .ok p) =>
    match (p.execute client stamp).outcome with
    | .error e => (s, .error (.invalidBody e))
    | .ok outcome => (s.completeSend p.seq outcome, .ok p.seq)

/-! ## Responses and history -/

/-- The URLs of the images in the response on show. -/
def imageUrls (s : Session) : List String :=
  match s.response.bind (·.json) with
  | some body => ApiConsole.imageUrls s.imageRule s.baseUrl body
  | none => []

/-- Restores the request and the response of an entry. If an endpoint has its method and path, that
endpoint becomes active with the entry's body as its draft. -/
def restore (s : Session) (e : HistoryEntry) : Session × ReplayTarget :=
  let s' := { s with
    editor := e.requestBody
    response := some e.response
    validationError := none
    displayed := s.lastIssued }
  match Catalog.findRoute e.method e.path with
  | some endpoint =>
    ({ s' with
      active := endpoint.id
      drafts := s.drafts.set endpoint.id e.requestBody
      path := e.path
      query := e.query },
      .endpoint endpoint.id)
  | none => (s', .textOnly)

/-- Restores the entry with a given identity. -/
def replay (s : Session) (id : String) : Session × Except SessionFault ReplayTarget :=
  match s.history.get? id with
  | some e => ((s.restore e).1, .ok (s.restore e).2)
  | none => (s, .error (.unknownEntry id))

/-- Restores the entry at a place, the newest being at place zero. -/
def replayNth (s : Session) (place : Nat) : Session × Except SessionFault ReplayTarget :=
  match s.history.nth? place with
  | some e => ((s.restore e).1, .ok (s.restore e).2)
  | none => (s, .error (.unknownEntry s!"#{place}"))

def clearHistory (s : Session) : Session := { s with history := s.history.clear }

/-- Forgets the drafts, the history and the response. -/
def finish (s : Session) : Session :=
  { s with
    drafts := .empty
    history := s.history.clear
    response := none
    validationError := none }

end Session

end ApiConsole
