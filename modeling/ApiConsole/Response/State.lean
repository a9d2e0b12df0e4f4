import ApiConsole.Json.Reader

/-!
# Responses

What an attempt to send a request came to, in one form for exchanges and for failures to reach the
server. Status zero marks the latter. The text of a response is parsed as JSON where that is
possible; an unsuccessful response carries the message of its error payload, or, without one, its
status line.
-/
namespace ApiConsole

open Json

/-! ## Kinds of failure

How an attempt or its response went wrong, with the title and the advice shown for it. Only a
request that was refused before it was sent leaves no trace in the history. -/

inductive FailureKind where
  | validation
  | transport
  | http
  | parse
  deriving DecidableEq, Repr

namespace FailureKind

def all : List FailureKind := [validation, transport, http, parse]

def title : FailureKind → String
  | validation => "Invalid Request Body"
  | transport => "Connection Failed"
  | http => "HTTP Error"
  | parse => "Non-JSON Response"

def suggestions : FailureKind → List String
  | validation => ["Check that the JSON syntax is valid",
      "Use `format` to locate the error, or `reset` to restore the template"]
  | transport => ["Check if the server is running", "Verify the base URL and port are correct"]
  | http => ["Check the error message in the response body",
      "Resolve any \x7bplaceholders\x7d left in the path"]
  | parse => ["The raw response text is shown unmodified"]

/-- Whether an attempt that fails in this way has an entry in the history. -/
def isRecorded (k : FailureKind) : Bool := k != validation

/-- The name under which a kind is stored. -/
def key : FailureKind → String
  | validation => "validation"
  | transport => "transport"
  | http => "http"
  | parse => "parse"

end FailureKind

/-! ## Responses -/

structure Response where
  raw : String
  json : Option Value
  status : UInt16
  durationMs : UInt64
  error : Option String
  deriving Repr

/-! ## Parts -/

/-- Whether a status lies in the range of success. -/
def isSuccessStatus (status : UInt16) : Bool := 200 ≤ status.toNat && status.toNat < 300

/-- Where an error payload may carry its message: the message of its error object, the error itself
if it is a string, or its own message. The first place that is present is the one that counts. -/
def messagePlace (body : Value) : Option Value :=
  ((body.get? "error").bind (·.get? "message")).or
    (((body.get? "error").filter (·.isString)).or (body.get? "message"))

/-- The message of an error payload, if it is a string that is not empty. -/
def payloadMessage? (body : Value) : Option String :=
  ((messagePlace body).bind (·.string?)).filter (!·.isEmpty)

/-- A status with its reason, without blanks at the end. -/
def statusLine (status : UInt16) (reason : String) : String :=
  String.ofList (Text.trimEnd s!"HTTP {status.toNat} {reason}".toList)

/-- The message of an unsuccessful response. -/
def errorMessage (json : Option Value) (status : UInt16) (reason : String) : String :=
  (json.bind payloadMessage?).getD (statusLine status reason)

/-- Milliseconds below a second, else seconds with one decimal place. -/
def formatDuration (ms : UInt64) : String :=
  if ms.toNat < 1000 then s!"{ms.toNat}ms"
  else
    let seconds := ((Decimal.Binary64.ofNat? ms.toNat).bind
      (·.div? (Decimal.powerOfTen 3))).getD (.zero false)
    s!"{seconds.tenths / 10}.{seconds.tenths % 10}s"

namespace Response

/-! ## Making responses -/

/-- The response of an exchange with the server. -/
def ofExchange (status : UInt16) (reason raw : String) (durationMs : UInt64) : Response :=
  let json := parse? raw
  { raw := raw
    json := json
    status := status
    durationMs := durationMs
    error := if isSuccessStatus status then none else some (errorMessage json status reason) }

/-- The payload made up for an attempt that did not reach the server. -/
def failurePayload (message : String) : Value := .object [("error", .string message)]

/-- The response of an attempt that did not reach the server. -/
def ofTransportFailure (message : String) (durationMs : UInt64) : Response :=
  { raw := (failurePayload message).pretty
    json := some (failurePayload message)
    status := 0
    durationMs := durationMs
    error := some message }

/-- The response recorded by a status, a text and a duration. -/
def restore (status : UInt16) (raw : String) (durationMs : UInt64) : Response :=
  if status == 0 then
    let json := parse? raw
    { raw := raw
      json := json
      status := status
      durationMs := durationMs
      error := some (((json.bind (·.get? "error")).bind (·.string?)).getD raw) }
  else ofExchange status "" raw durationMs

/-! ## Reading responses -/

def isSuccess (r : Response) : Bool := isSuccessStatus r.status

def isTransportFailure (r : Response) : Bool := r.status == 0

/-- How the attempt failed, `none` for a successful response that is JSON or empty. -/
def failureKind (r : Response) : Option FailureKind :=
  if r.isTransportFailure then some .transport
  else if !r.isSuccess then some .http
  else if r.json.isNone && !r.raw.isEmpty then some .parse
  else none

/-- The parsed text in indented form, or else the text as it is. -/
def structuredView (r : Response) : String :=
  match r.json with
  | some v => v.pretty
  | none => r.raw

def durationText (r : Response) : String := formatDuration r.durationMs

/-- The status, or `ERR` where there is none. -/
def statusText (status : UInt16) : String := if status == 0 then "ERR" else toString status.toNat

end Response

end ApiConsole
