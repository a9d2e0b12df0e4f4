import ApiConsole.History
import ApiConsole.Url.Parser

/-!
# Sending

A send that has been issued is executed by checking its request once more, handing it to a client
and turning what comes back into a response and an entry of the history. Failures of the transport
and unsuccessful statuses are responses as well; only a body that is refused keeps a send from being
executed, and then nothing is handed over.
-/
namespace ApiConsole

/-! ## Answers of the server

What comes back for a request: an exchange, whatever its status, or a fault of the transport if no
exchange took place. A request whose URL cannot be read or is of a scheme other than `http` and
`https` has such a fault before any connection is tried. -/

/-- The server's answer to a request. -/
structure Exchange where
  status : UInt16
  reason : String
  body : String
  deriving DecidableEq, Repr

/-- Why no exchange took place. -/
inductive TransportFault where
  | invalidUrl (text : String)
  | lookupFailed (host message : String)
  | refused (host : String) (port : UInt16)
  | notConnected (message : String)
  | timedOut
  | other (text : String)
  deriving DecidableEq, Repr

def TransportFault.message : TransportFault → String
  | .invalidUrl text => "invalid URL: " ++ text
  | .lookupFailed host message => s!"DNS lookup failed for {host}: {message}"
  | .refused host port => s!"connection refused by {host}:{port.toNat}"
  | .notConnected message => "connection failed: " ++ message
  | .timedOut => "request timed out"
  | .other text => text

/-- What comes back for a request. -/
abbrev Answer := Except TransportFault Exchange

/-- The fault of a request for which no connection is tried. -/
def Request.unsendable? (r : Request) : Option TransportFault :=
  match Url.parse r.url with
  | .error fault => some (.invalidUrl (fault.message ++ ": " ++ r.url))
  | .ok url =>
    if url.isHttp then none
    else some (.other
      s!"builder error for url ({url.withoutCredentials.text}): URL scheme is not allowed")

/-! ## Sends -/

/-- A request as it was issued, with its place in the order of sends. The place `seq` has no bound
here; a run of 2^64 sends is out of reach. -/
structure PendingSend where
  seq : Nat
  request : Request
  endpointName : String
  path : String
  query : String
  deriving DecidableEq, Repr

/-- What a completed send adds to the record: its identity, when it ended, how long it took. -/
structure Stamp where
  id : String
  timestamp : Timestamp
  durationMs : UInt64
  deriving DecidableEq, Repr

/-- What a completed send came to. -/
structure Outcome where
  entry : HistoryEntry
  response : Response
  deriving Repr

/-- What executing a send did: the requests handed to the client, and the outcome. -/
structure Execution where
  sent : List Request
  outcome : Except Json.ParseError Outcome

/-- The response to an answer. -/
def Response.ofAnswer (answer : Answer) (durationMs : UInt64) : Response :=
  match answer with
  | .ok e => .ofExchange e.status e.reason e.body durationMs
  | .error fault => .ofTransportFailure fault.message durationMs

namespace PendingSend

/-- What is recorded of a send whose request went out as `r`. -/
def snapshot (p : PendingSend) (r : Request) : RequestSnapshot :=
  { endpointName := p.endpointName
    method := r.method
    path := p.path
    query := p.query
    body := r.body.getD "" }

/-- Executes a send with a client. -/
def execute (p : PendingSend) (client : Request → Answer) (stamp : Stamp) : Execution :=
  match p.request.prepare with
  | .error e => ⟨[], .error e⟩
  | .ok r =>
    let response := Response.ofAnswer (client r) stamp.durationMs
    ⟨[r], .ok ⟨.ofResponse stamp.id (p.snapshot r) response stamp.timestamp, response⟩⟩

end PendingSend

end ApiConsole
