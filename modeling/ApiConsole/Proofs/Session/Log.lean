import ApiConsole.Proofs.History
import ApiConsole.Proofs.Session.Run

/-!
# The history of a session

Of the events of a run, three concern the history: a completed send adds its entry, whether or not
its response is put on show, and the history is emptied on request and at the end. A run of a session
does to its history just what these events ask for (`history_run`), so that the entries are the
newest ones of a log (`entries_run`).

Main theorem `history_newest_completed`: after any run of a new session, the history holds the
entries of the sends completed since it was last emptied, the newest thirty and the newest first, and
no other operation changes it; and a history of any capacity answers from the entries added since its
last clearance.
-/
namespace ApiConsole.Session

/-! ## Changes of the history -/

/-- What an event asks of the history. -/
def Event.historyOp? : Event → Option History.Op
  | .completed d => some (.add d.outcome.entry)
  | .cleared | .finished => some .clear
  | .issued _ | .restored _ => none

/-- What an operation asks of the history. -/
def Op.historyOp? : Op → Option History.Op
  | .complete d => some (.add d.outcome.entry)
  | .clearHistory | .finish => some .clear
  | _ => none

theorem bind_event? (s : Session) (op : Op) :
    (s.event? op).bind Event.historyOp? = op.historyOp? := by
  cases op with
  | issue => rw [event?_issue]; cases s.beginSend.2 <;> rfl
  | replay id =>
    show ((s.history.get? id).map Event.restored).bind Event.historyOp? = none
    cases s.history.get? id <;> rfl
  | replayNth place =>
    show ((s.history.nth? place).map Event.restored).bind Event.historyOp? = none
    cases s.history.nth? place <;> rfl
  | _ => rfl

/-- **One step** does to the history what the operation asks for, and nothing else. -/
theorem history_step (s : Session) (op : Op) :
    (s.step op).history = s.history.run op.historyOp?.toList := by
  -- By events, so that a refused replay and one that restores an entry are told apart.
  rw [← bind_event? s op]
  have h := effect_step s op
  generalize s.event? op = ev at h ⊢
  generalize s.step op = s' at h
  cases h with
  | issued | cleared | finished => rfl
  | completed d => rw [completeSend_eq]; rfl
  | restored => exact (restore_frame s _).2.1
  | quiet h => exact h.history

theorem history_run (s : Session) (ops : List Op) :
    (s.run ops).history = s.history.run (ops.filterMap Op.historyOp?) := by
  induction ops generalizing s with
  | nil => rfl
  | cons op ops ih =>
    rw [run_cons, ih, history_step, ← History.run_append]
    cases h : op.historyOp? <;> simp [h]

theorem filterMap_trace (s : Session) (ops : List Op) :
    (s.trace ops).filterMap Event.historyOp? = ops.filterMap Op.historyOp? := by
  induction ops generalizing s with
  | nil => rfl
  | cons op ops ih =>
    have hop := bind_event? s op
    rw [trace, List.filterMap_append, ih]
    cases hev : s.event? op <;> cases h : op.historyOp? <;> simp_all

theorem capacity_run (s : Session) (ops : List Op) :
    (s.run ops).history.capacity = s.history.capacity := by
  rw [history_run, History.capacity_run]

/-! ## The log -/

/-- What an event does to the log, the newest entry of which stands first. -/
def logged (log : List HistoryEntry) : Event → List HistoryEntry
  | .completed d => d.outcome.entry :: log
  | .cleared | .finished => []
  | .issued _ | .restored _ => log

/-- The log of a trace. -/
def logOf (evs : List Event) : List HistoryEntry := evs.foldl logged []

theorem foldl_logged (log : List HistoryEntry) (evs : List Event) :
    evs.foldl logged log = (evs.filterMap Event.historyOp?).foldl History.record log := by
  induction evs generalizing log with
  | nil => rfl
  | cons ev evs ih => cases ev <;> exact ih _

/-- The entries after a run are the newest ones of the log. -/
theorem entries_run {s : Session} {log : List HistoryEntry} (ops : List Op)
    (h : s.history.entries = log.take s.history.capacity.toNat) :
    (s.run ops).history.entries =
      ((s.trace ops).foldl logged log).take s.history.capacity.toNat := by
  rw [history_run, foldl_logged, filterMap_trace, History.entries_run _ h]

/-- Completing sends one after the other puts their entries in front. -/
theorem foldl_logged_completed (log : List HistoryEntry) (ds : List Completed) :
    (ds.map Event.completed).foldl logged log = (ds.map (·.outcome.entry)).reverse ++ log := by
  induction ds generalizing log with
  | nil => rfl
  | cons d ds ih =>
    rw [List.map_cons, List.foldl_cons, ih, List.map_cons, List.reverse_cons, List.append_assoc]
    rfl

/-! ## The newest completed sends -/

/-- **The history is the bounded log of what was completed.** For every run of a new session, and for
every run of a history with any capacity. -/
theorem history_newest_completed :
    (∀ (baseUrl hint : String) (rule : ImageRule) (ops : List Op),
      ((start baseUrl hint rule).run ops).history.entries =
        (History.addedSinceClear (ops.filterMap Op.historyOp?)).reverse.take 30) ∧
    (∀ (s : Session) (op : Op), op.historyOp? = none → (s.step op).history = s.history) ∧
    ∀ (capacity : UInt64) (changes : List History.Op) (h : History),
      h = (History.empty capacity).run changes →
        h.entries = (History.addedSinceClear changes).reverse.take capacity.toNat ∧
        (∀ place, h.nth? place =
          ((History.addedSinceClear changes).reverse.take capacity.toNat)[place]?) ∧
        (∀ id e, h.get? id = some e ↔
          ∃ place, h.nth? place = some e ∧ e.id = id ∧
            ∀ newer < place, ∀ e', h.nth? newer = some e' → e'.id ≠ id) ∧
        ∀ id, h.get? id = none ↔ ∀ e ∈ h.entries, e.id ≠ id := by
  refine ⟨fun baseUrl hint rule ops => ?_, fun s op hop => ?_, ?_⟩
  · rw [history_run]
    exact History.entries_run_empty History.defaultCapacity _
  · rw [history_step, hop]
    rfl
  · rintro capacity changes _ rfl
    have hentries := History.entries_run_empty capacity changes
    refine ⟨hentries, fun place => ?_, fun id e => History.get?_eq_some_iff,
      fun id => History.get?_eq_none_iff⟩
    rw [← hentries]
    rfl

/-- A health check that no server answered, under a given identity. -/
def unanswered (seq : Nat) (id : String) : Completed where
  seq := seq
  outcome :=
    let response := Response.ofTransportFailure "request timed out" 5
    ⟨.ofResponse id ⟨"Health Check", .get, "/health", "", ""⟩ response ⟨2026, 1, 2, 3, 4, 5, 6⟩,
      response⟩

/-- A stale completion that is kept by a replay, and an identity that was given twice. -/
theorem history_newest_completed_twice :
    (((start "http://h" "m" .heuristic).run
        [.complete (unanswered 2 "b"), .complete (unanswered 1 "a")]).step
          (.replayNth 1)).history.entries =
      [(unanswered 1 "a").outcome.entry, (unanswered 2 "b").outcome.entry] ∧
    ((History.empty 2).run
        [.add (unanswered 1 "a").outcome.entry, .clear, .add (unanswered 2 "b").outcome.entry,
          .add (unanswered 3 "c").outcome.entry, .add (unanswered 4 "c").outcome.entry]).get? "c" =
      some (unanswered 4 "c").outcome.entry := by
  obtain ⟨hrun, hother, hhistory⟩ := history_newest_completed
  constructor
  · rw [hother _ _ rfl, hrun]
    rfl
  · obtain ⟨-, -, hget, -⟩ := hhistory 2 _ _ rfl
    exact (hget _ _).2 ⟨0, rfl, rfl, by simp⟩

end ApiConsole.Session
