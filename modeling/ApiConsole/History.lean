import ApiConsole.Request
import ApiConsole.Response.State
import ApiConsole.Timestamp

/-!
# History

The attempts that were made to send a request, the newest first, up to a capacity. An entry keeps
what was sent and what came back as text, so that both can be restored; the oldest entries give way
to new ones.
-/
namespace ApiConsole

/-- What is sent, as it stands when the sending starts. -/
structure RequestSnapshot where
  endpointName : String
  method : Method
  path : String
  query : String
  body : String
  deriving DecidableEq, Repr

structure HistoryEntry where
  id : String
  timestamp : Timestamp
  endpointName : String
  method : Method
  path : String
  query : String
  status : UInt16
  durationMs : UInt64
  requestBody : String
  responseBody : String
  deriving DecidableEq, Repr

namespace HistoryEntry

/-- The entry of a request and its response. -/
def ofResponse (id : String) (sent : RequestSnapshot) (r : Response) (timestamp : Timestamp) :
    HistoryEntry :=
  { id := id
    timestamp := timestamp
    endpointName := sent.endpointName
    method := sent.method
    path := sent.path
    query := sent.query
    status := r.status
    durationMs := r.durationMs
    requestBody := sent.body
    responseBody := r.raw }

/-- The response that an entry recorded. -/
def response (e : HistoryEntry) : Response := .restore e.status e.responseBody e.durationMs

def statusText (e : HistoryEntry) : String := Response.statusText e.status

def durationText (e : HistoryEntry) : String := formatDuration e.durationMs

/-- Path and query, with a question mark between them if there is a query. -/
def target (e : HistoryEntry) : String :=
  if e.query.isEmpty then e.path else e.path ++ "?" ++ e.query

end HistoryEntry

/-- The newest attempts; at most `capacity` of them. -/
structure History where
  entries : List HistoryEntry
  capacity : UInt64
  deriving DecidableEq, Repr

namespace History

/-- The number of entries that a session keeps. -/
def defaultCapacity : UInt64 := 30

/-- A history without entries. -/
def empty (capacity : UInt64) : History := ⟨[], capacity⟩

/-- Puts an entry in front; the oldest ones beyond the capacity are dropped. -/
def add (h : History) (e : HistoryEntry) : History :=
  { h with entries := (e :: h.entries).take h.capacity.toNat }

/-- The newest entry with a given identity. -/
def get? (h : History) (id : String) : Option HistoryEntry := h.entries.find? (·.id == id)

/-- The entry at a place, the newest being at place zero. -/
def nth? (h : History) (place : Nat) : Option HistoryEntry := h.entries[place]?

def clear (h : History) : History := { h with entries := [] }

def size (h : History) : Nat := h.entries.length

@[simp] theorem entries_empty (capacity : UInt64) : (empty capacity).entries = [] := rfl

@[simp] theorem entries_clear (h : History) : h.clear.entries = [] := rfl

@[simp] theorem capacity_add (h : History) (e : HistoryEntry) :
    (h.add e).capacity = h.capacity := rfl

@[simp] theorem entries_add (h : History) (e : HistoryEntry) :
    (h.add e).entries = (e :: h.entries).take h.capacity.toNat := rfl

theorem size_add_le (h : History) (e : HistoryEntry) : (h.add e).size ≤ h.capacity.toNat := by
  simp only [size, entries_add]; exact List.length_take_le ..

end History

end ApiConsole
