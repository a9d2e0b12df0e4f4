import ApiConsole.Proofs.Dispatch
import ApiConsole.Proofs.Response.Restore

/-!
# The response behind an entry

An entry is made of the response that a send came to, and restoring the entry puts a response on show
again. Main theorem `response_restored_iff`: it is the response that was on show when the send was
completed, unless the message of that response shows the reason of the exchange; then the restored
message lacks the reason, and all else is as it was.
-/
namespace ApiConsole

namespace PendingSend

/-- What a send has come to is the response to the answer, and an entry made of it. -/
theorem exists_answer_of_execute {p : PendingSend} {client : Request → Answer} {stamp : Stamp}
    {outcome : Outcome} (h : (p.execute client stamp).outcome = .ok outcome) :
    ∃ r, (p.execute client stamp).sent = [r] ∧
      outcome.response = .ofAnswer (client r) stamp.durationMs ∧
      outcome.entry.response = .restore outcome.response.status outcome.response.raw
        outcome.response.durationMs := by
  unfold execute at h ⊢
  cases hp : p.request.prepare with
  | error e =>
    rw [hp] at h
    cases h
  | ok r =>
    rw [hp] at h
    cases h
    exact ⟨r, rfl, rfl, rfl⟩

end PendingSend

namespace Session

/-- A completed send that is newer puts its response on show. -/
theorem response_completeSend {s : Session} {seq : Nat} (h : s.isNewer seq = true)
    (outcome : Outcome) : (s.completeSend seq outcome).response = some outcome.response := by
  unfold completeSend
  rw [if_pos h]

theorem response_restore (s : Session) (e : HistoryEntry) :
    (s.restore e).1.response = some e.response :=
  (restore_frame s e).2.2.2.2.1

/-- **Restoring an entry shows the response that was shown when the send was completed**, unless the
message of that response shows the reason of the exchange. -/
theorem response_restored_iff (p : PendingSend) (client : Request → Answer) (stamp : Stamp)
    {outcome : Outcome} (h : (p.execute client stamp).outcome = .ok outcome)
    (hreal : ∀ r e, client r = .ok e → e.status ≠ 0) :
    ∃ r, (p.execute client stamp).sent = [r] ∧
      (outcome.entry.response = outcome.response ↔ ¬Response.ShowsReason (client r)) ∧
      outcome.entry.response = { outcome.response with error := outcome.entry.response.error } ∧
      (∀ e, client r = .ok e → e.ShowsReason →
        outcome.response.error = some (statusLine e.status e.reason) ∧
          outcome.entry.response.error = some (statusLine e.status "")) ∧
      ∀ (s : Session) (seq : Nat) (ops : List Op), s.isNewer seq = true →
        (∀ place, ((s.completeSend seq outcome).run ops).history.nth? place = some outcome.entry →
          ∃ s' target, ((s.completeSend seq outcome).run ops).replayNth place = (s', .ok target) ∧
            (s'.response = (s.completeSend seq outcome).response ↔
              ¬Response.ShowsReason (client r))) ∧
        ∀ id, ((s.completeSend seq outcome).run ops).history.get? id = some outcome.entry →
          ∃ s' target, ((s.completeSend seq outcome).run ops).replay id = (s', .ok target) ∧
            (s'.response = (s.completeSend seq outcome).response ↔
              ¬Response.ShowsReason (client r)) := by
  obtain ⟨r, hsent, hresponse, hentry⟩ := PendingSend.exists_answer_of_execute h
  have hwhole : outcome.entry.response = outcome.response ↔ ¬Response.ShowsReason (client r) := by
    rw [hentry, hresponse]
    exact Response.restore_ofAnswer_iff (hreal r) stamp.durationMs
  -- Any session that has the entry shows what the entry restores.
  have hshown : ∀ (s t : Session) (seq : Nat), s.isNewer seq = true →
      ((t.restore outcome.entry).1.response = (s.completeSend seq outcome).response ↔
        ¬Response.ShowsReason (client r)) := by
    intro s t seq hnewer
    rw [response_restore, response_completeSend hnewer, Option.some.injEq, hwhole]
  refine ⟨r, hsent, hwhole, ?_, ?_, ?_⟩
  · rw [hentry, hresponse]
    exact Response.restore_ofAnswer (hreal r) stamp.durationMs
  · intro e he hshows
    rw [hentry, hresponse, he]
    exact Response.error_of_showsReason hshows (hreal r e he) stamp.durationMs
  · intro s seq ops hnewer
    constructor
    · intro place hplace
      exact ⟨_, _, replayNth_of_nth? hplace, hshown s _ seq hnewer⟩
    · intro id hid
      exact ⟨_, _, replay_of_get? hid, hshown s _ seq hnewer⟩

/-- What a server says of a model that it does not have. -/
def missingModelPayload : String :=
  "\x7b\"error\":\x7b\"message\":\"Model not found\"\x7d\x7d"

/-- A server that has the message of a missing model in its payload. -/
def missingModel (_ : Request) : Answer := .ok ⟨404, "Not Found", missingModelPayload⟩

theorem response_restored_missing :
    ((scan "[]").answered missingModel firstStamp).entry.response =
        ((scan "[]").answered missingModel firstStamp).response ∧
      ∃ s' target, ((start "http://h" "m" .heuristic).completeSend 1
          ((scan "[]").answered missingModel firstStamp)).replayNth 0 = (s', .ok target) ∧
        s'.response = ((start "http://h" "m" .heuristic).completeSend 1
          ((scan "[]").answered missingModel firstStamp)).response := by
  have hmessage : (Json.parse? missingModelPayload).bind payloadMessage? =
      some "Model not found" := by rfl
  have hdone : ((scan "[]").execute missingModel firstStamp).outcome =
      .ok ((scan "[]").answered missingModel firstStamp) := rfl
  obtain ⟨r, -, hwhole, -, -, hpane⟩ := response_restored_iff (scan "[]") missingModel firstStamp
    hdone (by rintro r e ⟨⟩; decide)
  have hhides : ¬Response.ShowsReason (missingModel r) := by
    rintro ⟨e, ⟨⟩, hshows⟩
    have hnone := hshows.noMessage
    rw [hmessage] at hnone
    cases hnone
  obtain ⟨s', target, hreplay, hsame⟩ :=
    (hpane (start "http://h" "m" .heuristic) 1 [] rfl).1 0 rfl
  exact ⟨hwhole.2 hhides, s', target, hreplay, hsame.2 hhides⟩

/-- A server that has nothing but its status line to say. -/
def badGateway (_ : Request) : Answer := .ok ⟨502, "Bad Gateway", "upstream down"⟩

/-- **The reason of an exchange is lost** where it is the message of the response. -/
theorem reason_not_restored :
    ((scan "[]").execute badGateway firstStamp).outcome =
        .ok ((scan "[]").answered badGateway firstStamp) ∧
      ((scan "[]").answered badGateway firstStamp).response.error = some "HTTP 502 Bad Gateway" ∧
      ((scan "[]").answered badGateway firstStamp).entry.response.error = some "HTTP 502" ∧
      ((scan "[]").answered badGateway firstStamp).entry.response ≠
        ((scan "[]").answered badGateway firstStamp).response := by
  have hshown : ((scan "[]").answered badGateway firstStamp).response.error =
      some "HTTP 502 Bad Gateway" := by decide +kernel
  have hrestored : ((scan "[]").answered badGateway firstStamp).entry.response.error =
      some "HTTP 502" := by decide +kernel
  refine ⟨rfl, hshown, hrestored, fun heq => ?_⟩
  rw [heq, hshown] at hrestored
  exact absurd hrestored (by decide)

end Session

end ApiConsole
