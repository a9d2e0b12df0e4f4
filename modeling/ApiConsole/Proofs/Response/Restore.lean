import ApiConsole.Proofs.Json.RoundTrip
import ApiConsole.Proofs.Response.ErrorMessage
import ApiConsole.Send
import Mathlib.Tactic.Common

/-!
# Restoring responses

An entry keeps the status, the text and the duration of a response, and a response is restored from
these. One of a send that did not reach the server comes back whole, whatever its message holds
(`restore_ofTransportFailure`, `stored_failure_comes_back`). One of an exchange comes back but for
the reason in its status line, which no entry keeps: it is whole exactly if the reason is not part of
its message (`restore_ofExchange_iff`).
-/
namespace ApiConsole

open Json Text

/-! ## Status lines -/

/-- What a status line holds in front of its reason. -/
def statusHead (status : UInt16) : List Char := "HTTP ".toList ++ Nat.toDigits 10 status.toNat

theorem toList_statusLine (status : UInt16) (reason : String) :
    (statusLine status reason).toList = trimEnd (statusHead status ++ ' ' :: reason.toList) := by
  unfold statusLine statusHead
  rw [String.toList_ofList]
  simp [toString]

/-- A status line without a reason ends with the digits of the status. -/
theorem not_blank_getLast?_statusHead (status : UInt16) :
    ∀ c ∈ (statusHead status).getLast?, isBlank c = false := by
  intro c hc
  rw [statusHead, List.getLast?_append_of_ne_nil _ Nat.toDigits_ne_nil] at hc
  exact isBlank_of_isDigit (areDigits_toDigits _ c (List.mem_of_mem_getLast? hc))

theorem statusLine_of_blank (status : UInt16) {reason : String}
    (h : isBlankString reason = true) :
    statusLine status reason = String.ofList (statusHead status) := by
  have hall : ∀ c ∈ ' ' :: reason.toList, isBlank c = true :=
    List.forall_mem_cons.2 ⟨rfl, List.all_eq_true.1 h⟩
  rw [← String.toList_inj, toList_statusLine, String.toList_ofList, trimEnd,
    dropEndWhile_append hall, dropEndWhile_eq_self (not_blank_getLast?_statusHead status)]

/-- **The reason shows in a status line unless it is blank.** -/
theorem statusLine_empty_eq_iff (status : UInt16) (reason : String) :
    statusLine status "" = statusLine status reason ↔ isBlankString reason = true := by
  constructor
  · intro h
    by_contra hblank
    obtain ⟨c, hc, hkeep⟩ : ∃ c ∈ reason.toList, isBlank c = false := by
      simpa [isBlankString, allBlank] using hblank
    have hlength := congrArg (·.toList.length) h
    have hsplit : statusHead status ++ ' ' :: reason.toList =
        (statusHead status ++ [' ']) ++ reason.toList := by simp
    simp only [statusLine_of_blank status (show isBlankString "" = true by rfl),
      toList_statusLine, String.toList_ofList] at hlength
    rw [hsplit, trimEnd, dropEndWhile_append_of_exists ⟨c, hc, hkeep⟩] at hlength
    simp at hlength
  · intro h
    rw [statusLine_of_blank status h, statusLine_of_blank status (by rfl)]

/-! ## Exchanges -/

/-- The reason of an exchange is part of the message of its response: the status is not one of
success, the payload has no message of its own, and the reason is not blank. -/
structure Exchange.ShowsReason (e : Exchange) : Prop where
  unsuccessful : isSuccessStatus e.status = false
  noMessage : (parse? e.body).bind payloadMessage? = none
  notBlank : isBlankString e.reason = false

theorem errorMessage_empty_eq_iff (json : Option Value) (status : UInt16) (reason : String) :
    errorMessage json status "" = errorMessage json status reason ↔
      (json.bind payloadMessage? = none → isBlankString reason = true) := by
  unfold errorMessage
  cases json.bind payloadMessage? with
  | none => simp [statusLine_empty_eq_iff]
  | some message => simp

namespace Response

theorem restore_of_ne_zero {status : UInt16} (h : status ≠ 0) (raw : String) (ms : UInt64) :
    restore status raw ms = ofExchange status "" raw ms := by
  unfold restore
  rw [if_neg (by simpa using h)]

/-- **A response of an exchange is restored whole unless its message shows the reason.** -/
theorem restore_ofExchange_iff {e : Exchange} (h : e.status ≠ 0) (ms : UInt64) :
    restore e.status e.body ms = ofExchange e.status e.reason e.body ms ↔ ¬e.ShowsReason := by
  have herror : restore e.status e.body ms = ofExchange e.status e.reason e.body ms ↔
      (isSuccessStatus e.status = false →
        errorMessage (parse? e.body) e.status "" = errorMessage (parse? e.body) e.status e.reason) := by
    rw [restore_of_ne_zero h]
    unfold ofExchange
    cases isSuccessStatus e.status <;> simp
  rw [herror]
  constructor
  · rintro hsame ⟨hstatus, hmessage, hblank⟩
    have := (errorMessage_empty_eq_iff _ _ _).1 (hsame hstatus) hmessage
    rw [hblank] at this
    cases this
  · intro hshows hstatus
    refine (errorMessage_empty_eq_iff _ _ _).2 fun hmessage => ?_
    rw [← Bool.not_eq_false]
    exact fun hblank => hshows ⟨hstatus, hmessage, hblank⟩

/-- All but the message is restored in any case. -/
theorem restore_ofExchange {e : Exchange} (h : e.status ≠ 0) (ms : UInt64) :
    restore e.status e.body ms =
      { ofExchange e.status e.reason e.body ms with
        error := (restore e.status e.body ms).error } := by
  rw [restore_of_ne_zero h]
  rfl

/-- The message that shows a reason, and what is restored in its place. -/
theorem error_of_showsReason {e : Exchange} (h : e.ShowsReason) (hreal : e.status ≠ 0)
    (ms : UInt64) :
    (ofExchange e.status e.reason e.body ms).error = some (statusLine e.status e.reason) ∧
      (restore e.status e.body ms).error = some (statusLine e.status "") := by
  have herror : ∀ reason,
      (ofExchange e.status reason e.body ms).error = some (statusLine e.status reason) := by
    intro reason
    rw [error_ofExchange h.unsuccessful, errorMessage, h.noMessage, Option.getD_none]
  rw [restore_of_ne_zero hreal]
  exact ⟨herror _, herror _⟩

/-! ## Failures to reach the server -/

/-- The payload that is made up for a failure is read back from its text. -/
theorem parse?_failurePayload (message : String) :
    parse? (failurePayload message).pretty = some (failurePayload message) := by
  have hback : ReadsBack depthLimit (.ofMembers [("error", .string message)]) :=
    readsBack_ofMembers (by simp)
  exact hback.parse?_pretty

/-- **A failure to reach the server is restored whole**, whatever its message holds. -/
theorem restore_ofTransportFailure (message : String) (ms : UInt64) :
    restore 0 (ofTransportFailure message ms).raw ms = ofTransportFailure message ms := by
  have hread : parse? (ofTransportFailure message ms).raw = some (failurePayload message) :=
    parse?_failurePayload message
  unfold restore
  rw [if_pos (by rfl), hread]
  rfl

/-- **A failure to reach the server survives storage.** Its status, its text and its duration bring it
back as it was: with the same text, an object whose one member is the message under `error`, and the
message itself. No failure with another message has the same text. -/
theorem stored_failure_comes_back (message : String) (ms : UInt64) :
    restore 0 (ofTransportFailure message ms).raw ms = ofTransportFailure message ms ∧
      ofTransportFailure message ms =
        { raw := (Value.object [("error", .string message)]).pretty
          json := some (.object [("error", .string message)])
          status := 0
          durationMs := ms
          error := some message } ∧
      ∀ message' ms', (ofTransportFailure message' ms').raw = (ofTransportFailure message ms).raw →
        message' = message := by
  refine ⟨restore_ofTransportFailure message ms, rfl, fun message' ms' h => ?_⟩
  have hsame : parse? (failurePayload message').pretty = parse? (failurePayload message).pretty :=
    congrArg parse? h
  rw [parse?_failurePayload, parse?_failurePayload] at hsame
  simpa [failurePayload] using hsame

/-! ## Answers -/

/-- The reason of an answer is part of the message of its response. -/
def ShowsReason (a : Answer) : Prop := ∃ e, a = .ok e ∧ e.ShowsReason

theorem showsReason_ok {e : Exchange} : ShowsReason (.ok e) ↔ e.ShowsReason := by
  simp [ShowsReason]

theorem not_showsReason_error (fault : TransportFault) : ¬ShowsReason (.error fault) := by
  rintro ⟨e, ⟨⟩, -⟩

/-- **The response to an answer is restored whole unless its message shows the reason.** -/
theorem restore_ofAnswer_iff {a : Answer} (h : ∀ e, a = .ok e → e.status ≠ 0) (ms : UInt64) :
    restore (ofAnswer a ms).status (ofAnswer a ms).raw (ofAnswer a ms).durationMs = ofAnswer a ms ↔
      ¬ShowsReason a := by
  cases a with
  | error fault =>
    exact iff_of_true (restore_ofTransportFailure fault.message ms) (not_showsReason_error fault)
  | ok e =>
    rw [showsReason_ok]
    exact restore_ofExchange_iff (h e rfl) ms

theorem restore_ofAnswer {a : Answer} (h : ∀ e, a = .ok e → e.status ≠ 0) (ms : UInt64) :
    restore (ofAnswer a ms).status (ofAnswer a ms).raw (ofAnswer a ms).durationMs =
      { ofAnswer a ms with
        error := (restore (ofAnswer a ms).status (ofAnswer a ms).raw (ofAnswer a ms).durationMs).error } := by
  cases a with
  | error fault =>
    have hwhole := restore_ofTransportFailure fault.message ms
    change restore 0 (ofTransportFailure fault.message ms).raw ms =
      { ofTransportFailure fault.message ms with
        error := (restore 0 (ofTransportFailure fault.message ms).raw ms).error }
    rw [hwhole]
  | ok e => exact restore_ofExchange (h e rfl) ms

end Response

end ApiConsole
