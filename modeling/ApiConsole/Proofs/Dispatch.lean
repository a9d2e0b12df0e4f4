import ApiConsole.Proofs.Request.Prepare
import ApiConsole.Proofs.Session.Run

/-!
# What is handed to a client

A request is checked when its send is issued and again when the send is executed. A send that a
session has issued passes the second check with its request as it is, whatever happened to the
session in between (`sendable_of_issued`).

Main theorem `dispatch_valid`: an issued send is executed by handing its own request to the client,
once; whatever is handed over has a body only if its method carries one, and then a JSON text that is
not blank; the check is idempotent, and a request that it refuses is not handed over.
-/
namespace ApiConsole

namespace PendingSend

/-- What a send comes to whose request is handed over as it is. -/
def answered (p : PendingSend) (client : Request → Answer) (stamp : Stamp) : Outcome :=
  let response := Response.ofAnswer (client p.request) stamp.durationMs
  ⟨.ofResponse stamp.id (p.snapshot p.request) response stamp.timestamp, response⟩

theorem execute_of_sendable {p : PendingSend} (h : p.request.Sendable) (client : Request → Answer)
    (stamp : Stamp) : p.execute client stamp = ⟨[p.request], .ok (p.answered client stamp)⟩ := by
  unfold execute
  rw [h.prepare]
  rfl

theorem execute_of_refused {p : PendingSend} {e : Json.ParseError} (h : p.request.prepare = .error e)
    (client : Request → Answer) (stamp : Stamp) : p.execute client stamp = ⟨[], .error e⟩ := by
  unfold execute
  rw [h]

theorem sendable_of_mem_sent {p : PendingSend} {client : Request → Answer} {stamp : Stamp}
    {r : Request} (h : r ∈ (p.execute client stamp).sent) : r.Sendable := by
  cases hp : p.request.prepare with
  | error e =>
    rw [execute_of_refused hp] at h
    simp at h
  | ok r' =>
    unfold execute at h
    rw [hp] at h
    rw [List.mem_singleton.1 h]
    exact Request.sendable_of_prepare hp

end PendingSend

namespace Session

theorem sendable_of_beginSend {s : Session} {p : PendingSend} (h : s.beginSend.2 = .ok p) :
    p.request.Sendable :=
  Request.sendable_of_prepare (beginSend_eq_ok_iff.1 h).1

theorem sendable_of_issued {s : Session} {ops : List Op} {p : PendingSend}
    (h : .issued p ∈ s.trace ops) : p.request.Sendable := by
  obtain ⟨s', -, hp⟩ := exists_beginSend_of_issued h
  exact sendable_of_beginSend hp

/-- A send in one go is refused as it is issued, or it is issued and completed. -/
theorem send_eq (s : Session) (client : Request → Answer) (stamp : Stamp) :
    s.send client stamp =
      match s.beginSend.2 with
      | .error fault => (s.run [.issue], .error fault)
      | .ok p => (s.run [.issue, .complete ⟨p.seq, p.answered client stamp⟩], .ok p.seq) := by
  unfold send
  cases h : s.beginSend with
  | mk s' result =>
    have hs : s.step .issue = s' := congrArg Prod.fst h
    cases result with
    | error fault => simp only [run_cons, run_nil, hs]
    | ok p =>
      have hp : p.request.Sendable := sendable_of_beginSend (congrArg Prod.snd h)
      simp only [PendingSend.execute_of_sendable hp, run_cons, run_nil, hs]
      rfl

end Session

/-- **What is handed to a client.** -/
theorem dispatch_valid :
    (∀ (s : Session) (ops : List Session.Op) (p : PendingSend), .issued p ∈ s.trace ops →
      ∀ (client : Request → Answer) (stamp : Stamp), ∃ outcome,
        p.execute client stamp = ⟨[p.request], .ok outcome⟩ ∧
        outcome.response = .ofAnswer (client p.request) stamp.durationMs ∧
        outcome.entry.method = p.request.method ∧ outcome.entry.path = p.path ∧
        outcome.entry.query = p.query ∧
        outcome.entry.requestBody = p.request.body.getD "") ∧
    (∀ (p : PendingSend) (client : Request → Answer) (stamp : Stamp),
      ∀ r ∈ (p.execute client stamp).sent,
        (r.method = .get → r.body = none) ∧
        ∀ body, r.body = some body →
          Text.isBlankString body = false ∧ ∃ v, Json.parse body = .ok v) ∧
    (∀ r p : Request, r.prepare = .ok p → p.prepare = .ok p) ∧
    (∀ (p : PendingSend) (e : Json.ParseError), p.request.prepare = .error e →
      ∀ (client : Request → Answer) (stamp : Stamp), p.execute client stamp = ⟨[], .error e⟩) ∧
    (∀ (s : Session) (client : Request → Answer) (stamp : Stamp) (fault : SessionFault),
      (s.send client stamp).2 = .error fault → s.beginSend.2 = .error fault) := by
  refine ⟨?_, ?_, ?_, ?_, ?_⟩
  · intro s ops p hp client stamp
    refine ⟨p.answered client stamp, ?_, rfl, rfl, rfl, rfl, rfl⟩
    exact PendingSend.execute_of_sendable (Session.sendable_of_issued hp) client stamp
  · intro p client stamp r hr
    have h := PendingSend.sendable_of_mem_sent hr
    exact ⟨h.body_eq_none, fun body hb => ⟨h.notBlank body hb, h.json body hb⟩⟩
  · intro r p h
    exact Request.prepare_idem h
  · intro p e h client stamp
    exact PendingSend.execute_of_refused h client stamp
  · intro s client stamp fault h
    rw [Session.send_eq] at h
    cases hp : s.beginSend.2 with
    | error fault' =>
      rw [hp] at h
      cases h
      rfl
    | ok p =>
      rw [hp] at h
      cases h

/-- A send of a session over `http://h`, with a given body. -/
def scan (body : String) : PendingSend where
  seq := 1
  request := ⟨.post, "http://h/api/v1/models/scan", some body⟩
  endpointName := "Scan Models Folder"
  path := "/api/v1/models/scan"
  query := ""

def firstStamp : Stamp := ⟨"1", ⟨2026, 1, 2, 3, 4, 5, 6⟩, 7⟩

theorem dispatch_valid_scan :
    ((scan "[]").execute (fun _ => .error .timedOut) firstStamp).sent = [(scan "[]").request] ∧
      (Text.isBlankString "[]" = false ∧ ∃ v, Json.parse "[]" = .ok v) ∧
      (scan "[]").request.prepare = .ok (scan "[]").request ∧
      (scan "[").execute (fun _ => .error .timedOut) firstStamp =
        ⟨[], .error ⟨.endInList, 1, 1⟩⟩ ∧
      ((Session.start "http://h" "m" .heuristic).run
          [.select .modelsScan, .edit "["]).beginSend.2 =
        .error (.invalidBody ⟨.endInList, 1, 1⟩) := by
  obtain ⟨hissued, hsent, hidem, hrefused, hsend⟩ := dispatch_valid
  obtain ⟨outcome, hexec, -⟩ := hissued (.start "http://h" "m" .heuristic)
    [.select .modelsScan, .edit "[]", .issue, .finish] (scan "[]") (.head _)
    (fun _ => .error .timedOut) firstStamp
  refine ⟨by rw [hexec], ?_, hidem ⟨.post, "http://h/api/v1/models/scan", some "[]"⟩ _ rfl,
    hrefused _ _ rfl _ _, ?_⟩
  · exact (hsent (scan "[]") (fun _ => .error .timedOut) firstStamp _
      (by rw [hexec]; exact .head _)).2 _ rfl
  · exact hsend _ (fun _ => .error .timedOut) firstStamp _ rfl

end ApiConsole
