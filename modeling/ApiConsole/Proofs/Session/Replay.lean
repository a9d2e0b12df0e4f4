import ApiConsole.Proofs.Dispatch
import ApiConsole.Proofs.History

/-!
# Replaying what was sent

An entry keeps the method, the path and the query that its send was issued with, and the body that
was transmitted. Composing them again over the same base URL gives a request that passes the check
with the request that was sent (`prepare_restore`), although the body that the operator had typed may
be gone. Nothing that happens between the send and the replay matters.

Main theorem `replay_reproduces_request`: replaying the entry of an issued send succeeds; if an
endpoint becomes active, the session is about to send the same request again; if none does, only the
texts on show have changed.
-/
namespace ApiConsole

theorem Catalog.of_findRoute {m : Method} {path : String} {endpoint : Endpoint}
    (h : findRoute m path = some endpoint) :
    endpoint.method = m ∧ endpoint.path = path ∧ endpoint.id.endpoint = endpoint := by
  have hroute := List.find?_some h
  simp only [Bool.and_eq_true, beq_iff_eq] at hroute
  obtain ⟨id, -, hid⟩ := List.mem_map.1 (List.mem_of_find?_eq_some h)
  refine ⟨hroute.1, hroute.2, ?_⟩
  rw [← hid, EndpointId.id_endpoint]

namespace Session

/-! ## Restoring an entry -/

theorem restore_of_route {s : Session} {e : HistoryEntry} {endpoint : Endpoint}
    (h : Catalog.findRoute e.method e.path = some endpoint) :
    (s.restore e).1.active = endpoint.id ∧ (s.restore e).1.path = e.path ∧
      (s.restore e).1.query = e.query := by
  unfold restore
  rw [h]
  exact ⟨rfl, rfl, rfl⟩

theorem drafts_restore_of_route {s : Session} {e : HistoryEntry} {endpoint : Endpoint}
    (h : Catalog.findRoute e.method e.path = some endpoint) :
    (s.restore e).1.drafts = s.drafts.set endpoint.id e.requestBody := by
  unfold restore
  rw [h]

theorem route_of_restore {s : Session} {e : HistoryEntry} {id : EndpointId}
    (h : (s.restore e).2 = .endpoint id) :
    ∃ endpoint, Catalog.findRoute e.method e.path = some endpoint := by
  unfold restore at h
  cases hroute : Catalog.findRoute e.method e.path with
  | none => simp [hroute] at h
  | some endpoint => exact ⟨endpoint, rfl⟩

theorem frame_of_textOnly {s : Session} {e : HistoryEntry} (h : (s.restore e).2 = .textOnly) :
    (s.restore e).1.active = s.active ∧ (s.restore e).1.path = s.path ∧
      (s.restore e).1.query = s.query ∧ (s.restore e).1.drafts = s.drafts := by
  unfold restore at h ⊢
  cases hroute : Catalog.findRoute e.method e.path with
  | none => exact ⟨rfl, rfl, rfl, rfl⟩
  | some endpoint => simp [hroute] at h

/-- The request of a restored entry has the entry's parts. -/
theorem composed_restore {s : Session} {e : HistoryEntry} {endpoint : Endpoint}
    (h : Catalog.findRoute e.method e.path = some endpoint) :
    (s.restore e).1.composed =
      composeRequest s.baseUrl e.method e.path e.query e.requestBody := by
  obtain ⟨hactive, hpath, hquery⟩ := restore_of_route (s := s) h
  obtain ⟨hbase, -, -, -, -, heditor⟩ := restore_frame s e
  obtain ⟨hmethod, -, hid⟩ := Catalog.of_findRoute h
  unfold composed
  rw [hactive, hid, hmethod, hbase, hpath, hquery, heditor]

/-- An entry that keeps what a session issued is composed to the same request, over the same base. -/
theorem prepare_restore {s s' : Session} {p : PendingSend} {e : HistoryEntry} {endpoint : Endpoint}
    (hp : s'.beginSend.2 = .ok p) (hbase : s'.baseUrl = s.baseUrl)
    (hmethod : e.method = p.request.method) (hpath : e.path = p.path) (hquery : e.query = p.query)
    (hbody : e.requestBody = p.request.body.getD "")
    (h : Catalog.findRoute e.method e.path = some endpoint) :
    (s.restore e).1.composed.prepare = .ok p.request := by
  obtain ⟨hprep, -, -, hpath', hquery'⟩ := beginSend_eq_ok_iff.1 hp
  have hm : p.request.method = s'.active.endpoint.method := (Request.prepare_eq_ok_iff.1 hprep).1
  rw [composed_restore h, hmethod, hm, hpath, hpath', hquery, hquery', hbody, ← hbase]
  exact Request.prepare_compose_sent hprep

/-! ## Replaying -/

/-- **Replay reproduces the request.** For a send that was issued in a run, with the outcome of its
execution and with the entry of this outcome still in the history. -/
theorem replay_reproduces_request (s : Session) (ops : List Op) (p : PendingSend)
    (client : Request → Answer) (stamp : Stamp) (outcome : Outcome) (place : Nat)
    (hp : .issued p ∈ s.trace ops) (ho : (p.execute client stamp).outcome = .ok outcome)
    (he : (s.run ops).history.nth? place = some outcome.entry) :
    ∃ s' target, (s.run ops).replayNth place = (s', .ok target) ∧
      (((s.run ops).history.entries.map (·.id)).Nodup →
        (s.run ops).replay outcome.entry.id = (s', .ok target)) ∧
      (∀ id, target = .endpoint id →
        s'.composed.prepare = .ok p.request ∧ s'.path = p.path ∧ s'.query = p.query ∧
          ∃ p', s'.beginSend.2 = .ok p' ∧ p'.request = p.request) ∧
      (target = .textOnly →
        s'.active = (s.run ops).active ∧ s'.path = (s.run ops).path ∧
          s'.query = (s.run ops).query ∧ s'.drafts = (s.run ops).drafts ∧
          s'.editor = p.request.body.getD "") := by
  rw [PendingSend.execute_of_sendable (sendable_of_issued hp)] at ho
  cases ho
  obtain ⟨s₀, hbase, hbegin⟩ := exists_beginSend_of_issued hp
  rw [← baseUrl_run s ops] at hbase
  generalize s.run ops = t at hbase he ⊢
  refine ⟨(t.restore _).1, (t.restore _).2, replayNth_of_nth? he,
    fun hn => replay_of_get? (History.get?_of_nth? hn he), ?_, ?_⟩
  · intro id htarget
    obtain ⟨endpoint, hroute⟩ := route_of_restore htarget
    obtain ⟨-, hpath, hquery⟩ := restore_of_route (s := t) hroute
    have hprep := prepare_restore hbegin hbase rfl rfl rfl rfl hroute
    exact ⟨hprep, hpath, hquery, _, congrArg Prod.snd (beginSend_of_prepare_ok hprep), rfl⟩
  · intro htarget
    obtain ⟨hactive, hpath, hquery, hdrafts⟩ := frame_of_textOnly htarget
    exact ⟨hactive, hpath, hquery, hdrafts, (restore_frame t _).2.2.2.2.2⟩

/-- A scan whose draft and endpoint are left while it is under way. -/
def scanAndLeave : List Op :=
  [.select .modelsScan, .edit "[]", .issue, .edit "[", .select .health,
    .complete ⟨1, (scan "[]").answered (fun _ => .error .timedOut) firstStamp⟩]

theorem replay_reproduces_scan :
    ∃ s', ((start "http://h" "m" .heuristic).run scanAndLeave).replay "1" =
        (s', .ok (.endpoint .modelsScan)) ∧
      s'.composed.prepare = .ok (scan "[]").request := by
  obtain ⟨s', target, -, hid, hendpoint, -⟩ :=
    replay_reproduces_request (start "http://h" "m" .heuristic) scanAndLeave (scan "[]")
      (fun _ => .error .timedOut) firstStamp _ 0 (.head _) rfl rfl
  have hreplay := hid (by decide)
  obtain rfl : target = .endpoint .modelsScan := by
    cases hreplay
    rfl
  exact ⟨s', hreplay, (hendpoint _ rfl).1⟩

end Session

end ApiConsole
