import ApiConsole.Endpoint
import ApiConsole.History
import ApiConsole.Json.Schema
import ApiConsole.Request
import ApiConsole.Snippet

/-!
# Stored forms

The shapes in which requests, responses, snippets and the history are kept as JSON. The members of a
record stand in a fixed order. A request without a body leaves the member out; a response writes
null for what it does not have, and either may be missing where a text is read.
-/
namespace ApiConsole

open Json

/-! ## Parts -/

namespace Storage

/-- Natural numbers of 16 bits. -/
def word16 : Schema := .word "u16" (UInt16.size - 1)

/-- Natural numbers of 64 bits. -/
def word64 : Schema := .word "u64" (UInt64.size - 1)

/-- Counts; they have 64 bits as well. -/
def count : Schema := .word "usize" (UInt64.size - 1)

def methods : Schema := .choice (Method.all.map (·.name))

def targets : Schema := .choice (SnippetTarget.all.map (·.storedName))

/-- A text that may be missing. -/
def textDatum : Option String → Datum
  | some s => .something (.text s)
  | none => .nothing

/-- The text of a field that may be missing. -/
def text? : Option Datum → Option (Option String)
  | none | some .nothing => some none
  | some (.something (.text s)) => some (some s)
  | some _ => none

/-- The value of a field that may be missing. -/
def value? : Option Datum → Option (Option Value)
  | none | some .nothing => some none
  | some (.something (.any v)) => some (some v)
  | some _ => none

/-- The texts of a list. -/
def texts? (items : List Datum) : Option (List String) :=
  items.mapM fun
    | .text s => some s
    | _ => none

end Storage

open Storage

/-! ## Values without parts -/

instance : Stored Value where
  schema := .any
  toDatum := .any
  ofDatum?
    | .any v => some v
    | _ => none

instance : Stored Method where
  schema := methods
  toDatum m := .choice m.name
  ofDatum?
    | .choice name => Method.ofName? name
    | _ => none

instance : Stored SnippetTarget where
  schema := targets
  toDatum t := .choice t.storedName
  ofDatum?
    | .choice name => SnippetTarget.ofStoredName? name
    | _ => none

instance : Stored FailureKind where
  schema := .choice (FailureKind.all.map (·.key))
  toDatum k := .choice k.key
  ofDatum?
    | .choice name => FailureKind.all.find? (·.key == name)
    | _ => none

/-! ## Records -/

instance : Stored Request where
  schema := .record "ComposedRequest" <|
    .cons "method" .refused methods <| .cons "url" .refused .text <|
      .cons "body" .anywhere (.optional .text) .nil
  toDatum r := .record [some (.choice r.method.name), some (.text r.url),
    r.body.map fun body => .something (.text body)]
  ofDatum?
    | .record [some (.choice method), some (.text url), body] => do
      some ⟨← Method.ofName? method, url, ← text? body⟩
    | _ => none

instance : Stored RequestSnapshot where
  schema := .record "RequestSnapshot" <|
    .cons "endpoint_name" .refused .text <| .cons "method" .refused methods <|
      .cons "path" .refused .text <| .cons "query" .refused .text <|
        .cons "body" .refused .text .nil
  toDatum r := .record [some (.text r.endpointName), some (.choice r.method.name),
    some (.text r.path), some (.text r.query), some (.text r.body)]
  ofDatum?
    | .record [some (.text endpointName), some (.choice method), some (.text path),
        some (.text query), some (.text body)] => do
      some ⟨endpointName, ← Method.ofName? method, path, query, body⟩
    | _ => none

instance : Stored Response where
  schema := .record "ResponseState" <|
    .cons "raw" .refused .text <| .cons "json" .inObject (.optional .any) <|
      .cons "status" .refused word16 <| .cons "duration_ms" .refused word64 <|
        .cons "error" .inObject (.optional .text) .nil
  toDatum r := .record [some (.text r.raw),
    some (match r.json with | some v => .something (.any v) | none => .nothing),
    some (.word r.status.toNat), some (.word r.durationMs.toNat), some (textDatum r.error)]
  ofDatum?
    | .record [some (.text raw), json, some (.word status), some (.word durationMs), error] => do
      some ⟨raw, ← value? json, .ofNat status, .ofNat durationMs, ← text? error⟩
    | _ => none

instance : Stored Snippet where
  schema := .record "CodeSnippet" <|
    .cons "code" .refused .text <| .cons "target" .refused targets <|
      .cons "imports" .refused (.list .text) .nil
  toDatum s := .record [some (.text s.code), some (.choice s.target.storedName),
    some (.list (s.imports.map .text))]
  ofDatum?
    | .record [some (.text code), some (.choice target), some (.list imports)] => do
      some ⟨code, ← SnippetTarget.ofStoredName? target, ← texts? imports⟩
    | _ => none

instance : Stored HistoryEntry where
  schema := .record "HistoryEntry" <|
    .cons "id" .refused .text <| .cons "timestamp" .refused .timestamp <|
      .cons "endpoint_name" .refused .text <| .cons "method" .refused methods <|
        .cons "path" .refused .text <| .cons "query" .refused .text <|
          .cons "status" .refused word16 <| .cons "duration_ms" .refused word64 <|
            .cons "request_body" .refused .text <| .cons "response_body" .refused .text .nil
  toDatum e := .record [some (.text e.id), some (.timestamp e.timestamp),
    some (.text e.endpointName), some (.choice e.method.name), some (.text e.path),
    some (.text e.query), some (.word e.status.toNat), some (.word e.durationMs.toNat),
    some (.text e.requestBody), some (.text e.responseBody)]
  ofDatum?
    | .record [some (.text id), some (.timestamp timestamp), some (.text endpointName),
        some (.choice method), some (.text path), some (.text query), some (.word status),
        some (.word durationMs), some (.text requestBody), some (.text responseBody)] => do
      some ⟨id, timestamp, endpointName, ← Method.ofName? method, path, query, .ofNat status,
        .ofNat durationMs, requestBody, responseBody⟩
    | _ => none

instance : Stored History where
  schema := .record "RequestHistory" <|
    .cons "entries" .refused (.list (Stored.schema HistoryEntry)) <|
      .cons "max_entries" .refused count .nil
  toDatum h := .record
    [some (.list (h.entries.map Stored.toDatum)), some (.word h.capacity.toNat)]
  ofDatum?
    | .record [some (.list entries), some (.word capacity)] => do
      some ⟨← entries.mapM Stored.ofDatum?, .ofNat capacity⟩
    | _ => none

/-! ## The catalog -/

/-- The value that an endpoint is written as. -/
def Endpoint.toValue (e : Endpoint) : Value :=
  .object [
    ("id", .string e.id.key), ("name", .string e.name), ("method", .string e.method.name),
    ("path", .string e.path), ("description", .string e.description),
    ("category", .string e.category.key)]

/-- The text of a list of endpoints. -/
def Catalog.text (endpoints : List Endpoint) : String :=
  (Value.array (endpoints.map Endpoint.toValue)).pretty ++ "\n"

end ApiConsole
