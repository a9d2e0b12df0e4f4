import ApiConsole.Session
import Mathlib.Data.List.Basic

/-!
# Runs of a session

A run is a list of operations, and its trace is the list of events that matter to what happens later:
sends that are issued and completed, entries that are restored, a history that is emptied, an end.
Numbers of sends are given out in order (`seq_issuedIn_trace`), and a send in the trace was issued by
some state of the run (`exists_beginSend_of_issued`).
-/
namespace ApiConsole

/-- A send that has been completed: its number, and what it came to. -/
structure Completed where
  seq : Nat
  outcome : Outcome

namespace Session

/-- An operation on a session. -/
inductive Op where
  | select (id : EndpointId)
  | edit (text : String)
  | reset
  | format
  | setPath (path : String)
  | setQuery (query : String)
  | setModel (hint : String)
  | issue
  | recordError (message : String)
  | complete (done : Completed)
  | replay (id : String)
  | replayNth (place : Nat)
  | clearHistory
  | finish

def step (s : Session) : Op → Session
  | .select id => s.select id
  | .edit text => s.editDraft text
  | .reset => s.resetDraft
  | .format => s.formatDraft.1
  | .setPath path => s.setPath path
  | .setQuery query => s.setQuery query
  | .setModel hint => s.setModelHint hint
  | .issue => s.beginSend.1
  | .recordError message => s.recordValidationError message
  | .complete done => s.completeSend done.seq done.outcome
  | .replay id => (s.replay id).1
  | .replayNth place => (s.replayNth place).1
  | .clearHistory => s.clearHistory
  | .finish => s.finish

/-- What an operation adds to the trace of a run. -/
inductive Event where
  | issued (p : PendingSend)
  | completed (done : Completed)
  | restored (e : HistoryEntry)
  | cleared
  | finished

def Event.issued? : Event → Option PendingSend
  | .issued p => some p
  | _ => none

def Event.completed? : Event → Option Completed
  | .completed d => some d
  | _ => none

/-- The sends that were issued, in their order. -/
def issuedIn (evs : List Event) : List PendingSend := evs.filterMap Event.issued?

/-- The sends that were completed, in the order of their completions. -/
def completedIn (evs : List Event) : List Completed := evs.filterMap Event.completed?

theorem issuedIn_append (xs ys : List Event) : issuedIn (xs ++ ys) = issuedIn xs ++ issuedIn ys :=
  List.filterMap_append

theorem completedIn_append (xs ys : List Event) :
    completedIn (xs ++ ys) = completedIn xs ++ completedIn ys := List.filterMap_append

/-- The event of an operation; a replay has one if there is an entry to restore. -/
def event? (s : Session) : Op → Option Event
  | .issue => s.beginSend.2.toOption.map .issued
  | .complete done => some (.completed done)
  | .replay id => (s.history.get? id).map .restored
  | .replayNth place => (s.history.nth? place).map .restored
  | .clearHistory => some .cleared
  | .finish => some .finished
  | _ => none

def run (s : Session) (ops : List Op) : Session := ops.foldl step s

/-- The events of a run, in their order. -/
def trace (s : Session) : List Op → List Event
  | [] => []
  | op :: ops => (s.event? op).toList ++ (s.step op).trace ops

@[simp] theorem run_nil (s : Session) : s.run [] = s := rfl

@[simp] theorem run_cons (s : Session) (op : Op) (ops : List Op) :
    s.run (op :: ops) = (s.step op).run ops := rfl

theorem run_append (s : Session) (xs ys : List Op) : s.run (xs ++ ys) = (s.run xs).run ys :=
  List.foldl_append

@[simp] theorem trace_nil (s : Session) : s.trace [] = [] := rfl

theorem trace_append (s : Session) (xs ys : List Op) :
    s.trace (xs ++ ys) = s.trace xs ++ (s.run xs).trace ys := by
  induction xs generalizing s with
  | nil => rfl
  | cons op xs ih => simp only [List.cons_append, trace, run_cons, ih, List.append_assoc]

/-! ## Issuing -/

theorem beginSend_of_prepare_ok {s : Session} {r : Request} (h : s.composed.prepare = .ok r) :
    s.beginSend =
      ({ s with validationError := none, lastIssued := s.lastIssued + 1 },
        .ok ⟨s.lastIssued + 1, r, s.active.endpoint.name, s.path, s.query⟩) := by
  unfold beginSend; rw [h]

theorem beginSend_of_prepare_error {s : Session} {e : Json.ParseError}
    (h : s.composed.prepare = .error e) :
    s.beginSend = (s.recordValidationError (invalidBodyMessage e), .error (.invalidBody e)) := by
  unfold beginSend; rw [h]

theorem exists_beginSend_of_prepare {s : Session} {r : Request} (h : s.composed.prepare = .ok r) :
    ∃ p, s.beginSend.2 = .ok p ∧ p.request = r := by
  rw [beginSend_of_prepare_ok h]
  exact ⟨_, rfl, rfl⟩

/-- A send is issued if the request passes the check, and it captures the session. -/
theorem beginSend_eq_ok_iff {s : Session} {p : PendingSend} :
    s.beginSend.2 = .ok p ↔
      s.composed.prepare = .ok p.request ∧ p.seq = s.lastIssued + 1 ∧
        p.endpointName = s.active.endpoint.name ∧ p.path = s.path ∧ p.query = s.query := by
  cases h : s.composed.prepare with
  | error e => simp [beginSend_of_prepare_error h]
  | ok r =>
    rw [beginSend_of_prepare_ok h]
    constructor
    · rintro ⟨⟩
      exact ⟨rfl, rfl, rfl, rfl, rfl⟩
    · obtain ⟨seq, request, name, path, query⟩ := p
      rintro ⟨⟨⟩, rfl, rfl, rfl, rfl⟩
      rfl

/-! ## Changes that may be refused -/

theorem formatDraft_of_ok {s : Session} {text : String} (h : formatJson s.editor = .ok text) :
    s.formatDraft = (s.editDraft text, .ok text) := by
  unfold formatDraft; rw [h]

theorem formatDraft_of_error {s : Session} {refusal : Refusal}
    (h : formatJson s.editor = .error refusal) :
    s.formatDraft = (s, .error (.refused refusal)) := by
  unfold formatDraft; rw [h]

theorem replay_of_get? {s : Session} {id : String} {e : HistoryEntry}
    (h : s.history.get? id = some e) :
    s.replay id = ((s.restore e).1, .ok (s.restore e).2) := by
  unfold replay; rw [h]

theorem replay_of_get?_none {s : Session} {id : String} (h : s.history.get? id = none) :
    s.replay id = (s, .error (.unknownEntry id)) := by
  unfold replay; rw [h]

theorem replayNth_of_nth? {s : Session} {place : Nat} {e : HistoryEntry}
    (h : s.history.nth? place = some e) :
    s.replayNth place = ((s.restore e).1, .ok (s.restore e).2) := by
  unfold replayNth; rw [h]

theorem replayNth_of_nth?_none {s : Session} {place : Nat} (h : s.history.nth? place = none) :
    s.replayNth place = (s, .error (.unknownEntry s!"#{place}")) := by
  unfold replayNth; rw [h]

@[simp] theorem step_format (s : Session) : s.step .format = s.formatDraft.1 := rfl

@[simp] theorem step_replay (s : Session) (id : String) :
    s.step (.replay id) = (s.replay id).1 := rfl

@[simp] theorem step_replayNth (s : Session) (place : Nat) :
    s.step (.replayNth place) = (s.replayNth place).1 := rfl

/-! ## What a step can do -/

/-- Two sessions that differ at most in what is being composed. -/
structure SameRecord (s s' : Session) : Prop where
  baseUrl : s'.baseUrl = s.baseUrl
  response : s'.response = s.response
  history : s'.history = s.history
  lastIssued : s'.lastIssued = s.lastIssued
  displayed : s'.displayed = s.displayed

theorem SameRecord.refl (s : Session) : SameRecord s s := ⟨rfl, rfl, rfl, rfl, rfl⟩

/-- The effect of a step, by the event that it adds to the trace. -/
inductive Effect (s : Session) : Option Event → Session → Prop where
  | issued {p : PendingSend} (h : s.beginSend.2 = .ok p) :
    Effect s (some (.issued p)) { s with validationError := none, lastIssued := s.lastIssued + 1 }
  | completed (d : Completed) : Effect s (some (.completed d)) (s.completeSend d.seq d.outcome)
  | restored {e : HistoryEntry} (h : e ∈ s.history.entries) :
    Effect s (some (.restored e)) (s.restore e).1
  | cleared : Effect s (some .cleared) s.clearHistory
  | finished : Effect s (some .finished) s.finish
  | quiet {s' : Session} (h : SameRecord s s') : Effect s none s'

theorem Effect.beginSend_eq {s s' : Session} {p : PendingSend}
    (h : Effect s (some (.issued p)) s') : s.beginSend.2 = .ok p := by
  cases h with
  | issued h => exact h

theorem event?_issue (s : Session) : s.event? .issue = s.beginSend.2.toOption.map .issued := rfl

theorem effect_issue (s : Session) : Effect s (s.event? .issue) (s.step .issue) := by
  rw [event?_issue]
  cases h : s.composed.prepare with
  | error e =>
    show Effect s _ s.beginSend.1
    rw [beginSend_of_prepare_error h]
    exact .quiet ⟨rfl, rfl, rfl, rfl, rfl⟩
  | ok r =>
    show Effect s _ s.beginSend.1
    rw [beginSend_of_prepare_ok h]
    exact .issued (by rw [beginSend_of_prepare_ok h])

theorem effect_replay (s : Session) (id : String) :
    Effect s (s.event? (.replay id)) (s.step (.replay id)) := by
  show Effect s ((s.history.get? id).map .restored) (s.step (.replay id))
  cases h : s.history.get? id with
  | none =>
    rw [step_replay, replay_of_get?_none h]
    exact .quiet (.refl s)
  | some e =>
    rw [step_replay, replay_of_get? h]
    exact .restored (List.mem_of_find?_eq_some h)

theorem effect_replayNth (s : Session) (place : Nat) :
    Effect s (s.event? (.replayNth place)) (s.step (.replayNth place)) := by
  show Effect s ((s.history.nth? place).map .restored) (s.step (.replayNth place))
  cases h : s.history.nth? place with
  | none =>
    rw [step_replayNth, replayNth_of_nth?_none h]
    exact .quiet (.refl s)
  | some e =>
    rw [step_replayNth, replayNth_of_nth? h]
    exact .restored (List.mem_of_getElem? h)

theorem effect_format (s : Session) : Effect s (s.event? .format) (s.step .format) := by
  show Effect s none (s.step .format)
  cases h : formatJson s.editor with
  | error refusal =>
    rw [step_format, formatDraft_of_error h]
    exact .quiet (.refl s)
  | ok text =>
    rw [step_format, formatDraft_of_ok h]
    exact .quiet ⟨rfl, rfl, rfl, rfl, rfl⟩

/-- **One step.** All that an operation can do to a session. -/
theorem effect_step (s : Session) (op : Op) : Effect s (s.event? op) (s.step op) := by
  cases op with
  | issue => exact effect_issue s
  | complete d => exact .completed d
  | replay id => exact effect_replay s id
  | replayNth place => exact effect_replayNth s place
  | clearHistory => exact .cleared
  | finish => exact .finished
  | format => exact effect_format s
  | setPath path =>
    show Effect s none { s with path := normalizePath path }
    exact .quiet ⟨rfl, rfl, rfl, rfl, rfl⟩
  | setQuery query =>
    show Effect s none { s with query := normalizeQuery query }
    exact .quiet ⟨rfl, rfl, rfl, rfl, rfl⟩
  | select | edit | reset | setModel | recordError => exact .quiet ⟨rfl, rfl, rfl, rfl, rfl⟩

/-! ## Restoring -/

/-- Restoring an entry puts its texts into the session; of the rest, only what is being composed may
change. -/
theorem restore_frame (s : Session) (e : HistoryEntry) :
    (s.restore e).1.baseUrl = s.baseUrl ∧ (s.restore e).1.history = s.history ∧
      (s.restore e).1.lastIssued = s.lastIssued ∧ (s.restore e).1.displayed = s.lastIssued ∧
      (s.restore e).1.response = some e.response ∧ (s.restore e).1.editor = e.requestBody := by
  unfold restore
  cases Catalog.findRoute e.method e.path <;> exact ⟨rfl, rfl, rfl, rfl, rfl, rfl⟩

/-- Completing a send adds its entry to the history; the rest depends on the send on show. -/
theorem completeSend_eq (s : Session) (seq : Nat) (outcome : Outcome) :
    s.completeSend seq outcome =
      { s with
        history := s.history.add outcome.entry
        displayed := if s.displayed < seq then seq else s.displayed
        response := if s.displayed < seq then some outcome.response else s.response } := by
  unfold completeSend isNewer
  by_cases h : s.displayed < seq <;> simp [h]

/-! ## Along a run -/

theorem baseUrl_step (s : Session) (op : Op) : (s.step op).baseUrl = s.baseUrl := by
  have h := effect_step s op
  generalize s.event? op = ev at h
  generalize s.step op = s' at h
  cases h with
  | issued | cleared | finished => rfl
  | completed d => rw [completeSend_eq]
  | restored => exact (restore_frame s _).1
  | quiet h => exact h.baseUrl

theorem baseUrl_run (s : Session) (ops : List Op) : (s.run ops).baseUrl = s.baseUrl := by
  induction ops generalizing s with
  | nil => rfl
  | cons op ops ih => rw [run_cons, ih, baseUrl_step]

/-- Issuing takes the next number, and nothing else takes one. -/
theorem numbers_step (s : Session) (op : Op) :
    (issuedIn (s.event? op).toList).map (·.seq) =
        List.range' (s.lastIssued + 1) (issuedIn (s.event? op).toList).length ∧
      (s.step op).lastIssued = s.lastIssued + (issuedIn (s.event? op).toList).length := by
  have h := effect_step s op
  generalize s.event? op = ev at h
  generalize s.step op = s' at h
  cases h with
  | issued h =>
    have hseq := (beginSend_eq_ok_iff.1 h).2.1
    simp [issuedIn, Event.issued?, hseq]
  | completed d => rw [completeSend_eq]; exact ⟨rfl, rfl⟩
  | restored => exact ⟨rfl, (restore_frame s _).2.2.1⟩
  | cleared | finished => exact ⟨rfl, rfl⟩
  | quiet h => exact ⟨rfl, h.lastIssued⟩

theorem lastIssued_run (s : Session) (ops : List Op) :
    (s.run ops).lastIssued = s.lastIssued + (issuedIn (s.trace ops)).length := by
  induction ops generalizing s with
  | nil => rfl
  | cons op ops ih =>
    rw [run_cons, ih, (numbers_step s op).2, trace, issuedIn_append, List.length_append]
    omega

/-- The sends of a run have consecutive numbers, in the order in which they are issued. -/
theorem seq_issuedIn_trace (s : Session) (ops : List Op) :
    (issuedIn (s.trace ops)).map (·.seq) =
      List.range' (s.lastIssued + 1) (issuedIn (s.trace ops)).length := by
  induction ops generalizing s with
  | nil => rfl
  | cons op ops ih =>
    obtain ⟨hseq, hlast⟩ := numbers_step s op
    rw [trace, issuedIn_append, List.map_append, List.length_append, hseq, ih, hlast,
      Nat.add_right_comm, List.range'_append_1]

/-! ## Operations without a part in sending -/

/-- Whether an operation neither issues nor completes a send. -/
def Op.isQuiet : Op → Bool
  | .issue | .complete _ => false
  | _ => true

theorem events_of_isQuiet (s : Session) {op : Op} (h : op.isQuiet = true) :
    issuedIn (s.event? op).toList = [] ∧ completedIn (s.event? op).toList = [] := by
  cases op with
  | issue | complete => cases h
  | replay id =>
    show issuedIn ((s.history.get? id).map .restored).toList = [] ∧
      completedIn ((s.history.get? id).map .restored).toList = []
    cases s.history.get? id <;> exact ⟨rfl, rfl⟩
  | replayNth place =>
    show issuedIn ((s.history.nth? place).map .restored).toList = [] ∧
      completedIn ((s.history.nth? place).map .restored).toList = []
    cases s.history.nth? place <;> exact ⟨rfl, rfl⟩
  | select | edit | reset | format | setPath | setQuery | setModel | recordError | clearHistory
  | finish => exact ⟨rfl, rfl⟩

theorem trace_of_isQuiet (s : Session) {ops : List Op} (h : ∀ op ∈ ops, op.isQuiet = true) :
    issuedIn (s.trace ops) = [] ∧ completedIn (s.trace ops) = [] := by
  induction ops generalizing s with
  | nil => exact ⟨rfl, rfl⟩
  | cons op ops ih =>
    obtain ⟨hop, hops⟩ := List.forall_mem_cons.1 h
    obtain ⟨hissued, hcompleted⟩ := events_of_isQuiet s hop
    obtain ⟨hissued', hcompleted'⟩ := ih (s.step op) hops
    rw [trace, issuedIn_append, completedIn_append, hissued, hcompleted, hissued', hcompleted']
    exact ⟨rfl, rfl⟩

theorem trace_complete (s : Session) (ds : List Completed) :
    s.trace (ds.map Op.complete) = ds.map Event.completed := by
  induction ds generalizing s with
  | nil => rfl
  | cons d ds ih => rw [List.map_cons, trace, ih]; rfl

theorem completedIn_map (ds : List Completed) : completedIn (ds.map Event.completed) = ds := by
  unfold completedIn
  rw [List.filterMap_map]
  exact List.filterMap_some

theorem issuedIn_map_completed (ds : List Completed) : issuedIn (ds.map Event.completed) = [] := by
  unfold issuedIn
  rw [List.filterMap_map]
  exact List.filterMap_eq_nil_iff.2 fun _ _ => rfl

/-- Completing sends gives no number out. -/
theorem lastIssued_complete (s : Session) (ds : List Completed) :
    (s.run (ds.map Op.complete)).lastIssued = s.lastIssued := by
  rw [lastIssued_run, trace_complete, issuedIn_map_completed]
  rfl

/-! ## Where sends come from -/

/-- A send in the trace was issued by a session over the same base URL. -/
theorem exists_beginSend_of_issued {s : Session} {ops : List Op} {p : PendingSend}
    (h : .issued p ∈ s.trace ops) :
    ∃ s' : Session, s'.baseUrl = s.baseUrl ∧ s'.beginSend.2 = .ok p := by
  induction ops generalizing s with
  | nil => simp at h
  | cons op ops ih =>
    rw [trace, List.mem_append, Option.mem_toList] at h
    rcases h with h | h
    · have heff := effect_step s op
      rw [h] at heff
      exact ⟨s, rfl, heff.beginSend_eq⟩
    · obtain ⟨s', hbase, hp⟩ := ih h
      exact ⟨s', by rw [hbase, baseUrl_step], hp⟩

end Session

end ApiConsole
