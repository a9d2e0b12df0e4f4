import ApiConsole.Response.State
import Mathlib.Tactic.Common

/-!
# Messages of error payloads

A payload may carry a message in three places, and the first of them that holds a string which is
not empty is the message it carries (`firstMessage?`). The message that is shown is looked up in
another way: the first place that is present is chosen, and only then it is asked for a string.
Main theorem `message_shown_iff`: the two agree unless a place without a message covers one behind
it (`HidesMessage`), and then the status line is shown instead.
-/
namespace ApiConsole

open Json

/-! ## What a payload carries -/

/-- The message at a place: a string that is not empty. -/
def shown? (place : Option Value) : Option String := (place.bind (·.string?)).filter (!·.isEmpty)

/-- The message of the error. -/
def innerMessage (body : Value) : Option Value := (body.get? "error").bind (·.get? "message")

/-- The places of a message, the one that counts most first. -/
def messagePlaces (body : Value) : List (Option Value) :=
  [innerMessage body, body.get? "error", body.get? "message"]

/-- The first message that a payload carries. -/
def firstMessage? (body : Value) : Option String := (messagePlaces body).findSome? shown?

/-- A place without a message stands in front of the one that carries it: a message of the error
that is no string or empty, or an error that is the empty string. -/
structure HidesMessage (body : Value) (message : String) : Prop where
  carried : shown? (body.get? "message") = some message
  covered : (∃ v, innerMessage body = some v ∧ shown? v = none) ∨
    body.get? "error" = some (.string "")

theorem firstMessage?_eq (body : Value) :
    firstMessage? body = (shown? (innerMessage body)).or
      ((shown? (body.get? "error")).or (shown? (body.get? "message"))) := by
  simp only [firstMessage?, messagePlaces, List.findSome?_cons, List.findSome?_nil]
  cases shown? (innerMessage body) <;> cases shown? (body.get? "error") <;>
    cases shown? (body.get? "message") <;> rfl

theorem payloadMessage?_eq (body : Value) :
    payloadMessage? body = shown? ((innerMessage body).or
      (((body.get? "error").filter (·.isString)).or (body.get? "message"))) := rfl

/-! ## Places -/

theorem shown?_string (s : String) : shown? (some (.string s)) = if s = "" then none else some s := by
  by_cases h : s = "" <;> simp [shown?, Value.string?, h]

/-- What is no string shows no message. -/
theorem shown?_of_not_isString {v : Value} (h : v.isString = false) : shown? v = none := by
  have hnone : v.string? = none := by simpa [Value.isString] using h
  simp [shown?, hnone]

/-- An error with a message of its own is an object. -/
theorem exists_error_of_innerMessage {body v : Value} (h : innerMessage body = some v) :
    ∃ e, body.get? "error" = some e ∧ e.isString = false := by
  obtain ⟨e, he, hmessage⟩ := Option.bind_eq_some_iff.1 h
  refine ⟨e, he, ?_⟩
  cases e with
  | string s => cases hmessage
  | _ => rfl

theorem innerMessage_of_error_string {body : Value} {s : String}
    (h : body.get? "error" = some (.string s)) : innerMessage body = none := by
  rw [innerMessage, h]
  rfl

/-! ## The message that is looked up -/

/-- A message that is hidden is the first one that the payload carries, and it is not found. -/
theorem HidesMessage.not_found {body : Value} {message : String} (h : HidesMessage body message) :
    payloadMessage? body = none ∧ firstMessage? body = some message := by
  rw [payloadMessage?_eq, firstMessage?_eq, h.carried]
  rcases h.covered with ⟨v, hv, hnone⟩ | herror
  · obtain ⟨e, he, hstring⟩ := exists_error_of_innerMessage hv
    rw [hv, he, shown?_of_not_isString hstring, Option.some_or, hnone]
    exact ⟨rfl, rfl⟩
  · rw [innerMessage_of_error_string herror, herror]
    exact ⟨rfl, rfl⟩

/-- Where nothing is hidden, the first message of the payload is found. -/
theorem payloadMessage?_of_not_hidden {body : Value} (h : ∀ message, ¬HidesMessage body message) :
    payloadMessage? body = firstMessage? body := by
  -- A place that is chosen without showing a message covers nothing, for nothing is hidden.
  have hcovered : ((∃ v, innerMessage body = some v ∧ shown? v = none) ∨
      body.get? "error" = some (.string "")) → shown? (body.get? "message") = none := by
    intro hcovered
    rw [Option.eq_none_iff_forall_ne_some]
    exact fun message hmessage => h message ⟨hmessage, hcovered⟩
  rw [payloadMessage?_eq, firstMessage?_eq]
  cases hinner : innerMessage body with
  | some v =>
    obtain ⟨e, he, hstring⟩ := exists_error_of_innerMessage hinner
    rw [he, shown?_of_not_isString hstring, Option.some_or]
    cases hv : shown? v with
    | none => rw [hcovered (.inl ⟨v, hinner, hv⟩)]; rfl
    | some message => rfl
  | none =>
    rw [Option.none_or]
    cases herror : body.get? "error" with
    | none => rfl
    | some e =>
      cases e with
      | string s =>
        change shown? (some (.string s)) = (shown? (some (.string s))).or _
        by_cases hs : s = ""
        · subst hs
          rw [hcovered (.inr herror)]
          rfl
        · rw [shown?_string, if_neg hs]
          rfl
      | _ => rfl

/-- What is shown where a message is hidden. -/
theorem HidesMessage.errorMessage_eq {body : Value} {message : String}
    (h : HidesMessage body message) (status : UInt16) (reason : String) :
    errorMessage (some body) status reason = statusLine status reason := by
  rw [errorMessage, Option.bind_some, h.not_found.1, Option.getD_none]

/-- An unsuccessful exchange shows the message of its payload. -/
theorem error_ofExchange {status : UInt16} (h : isSuccessStatus status = false)
    (reason raw : String) (ms : UInt64) :
    (Response.ofExchange status reason raw ms).error =
      some (errorMessage (parse? raw) status reason) := by
  rw [Response.ofExchange, h]
  rfl

/-- **The message that is shown is the first one that the payload carries**, or the status line if it
carries none, unless that message is hidden; then the status line is shown in its place. -/
theorem message_shown_iff (json : Option Value) (status : UInt16) (reason : String) :
    (errorMessage json status reason =
        (json.bind firstMessage?).getD (statusLine status reason) ↔
      ∀ body message, json = some body → HidesMessage body message →
        message = statusLine status reason) ∧
    (∀ body message, json = some body → HidesMessage body message →
      firstMessage? body = some message ∧
        errorMessage json status reason = statusLine status reason) ∧
    ∀ raw ms, parse? raw = json → isSuccessStatus status = false →
      (Response.ofExchange status reason raw ms).error =
        some (errorMessage json status reason) := by
  refine ⟨⟨?_, ?_⟩, ?_, ?_⟩
  · rintro hfirst body message rfl hhides
    rw [hhides.errorMessage_eq, Option.bind_some, hhides.not_found.2, Option.getD_some] at hfirst
    exact hfirst.symm
  · intro hshown
    cases json with
    | none => rfl
    | some body =>
      by_cases hhidden : ∃ message, HidesMessage body message
      · obtain ⟨message, hhides⟩ := hhidden
        rw [hhides.errorMessage_eq, Option.bind_some, hhides.not_found.2, Option.getD_some,
          hshown body message rfl hhides]
      · rw [errorMessage, Option.bind_some, Option.bind_some,
          payloadMessage?_of_not_hidden (not_exists.1 hhidden)]
  · rintro body message rfl hhides
    exact ⟨hhides.not_found.2, hhides.errorMessage_eq status reason⟩
  · rintro raw ms rfl hstatus
    exact error_ofExchange hstatus reason raw ms

/-- An error whose message is null, with a message beside it. -/
def quotaText : String :=
  "\x7b\"error\": \x7b\"message\": null\x7d, \"message\": \"Quota exceeded\"\x7d"

/-- **A message that the payload carries may be hidden by a place that holds none.** -/
theorem quota_message_hidden :
    ∃ body, parse? quotaText = some body ∧ firstMessage? body = some "Quota exceeded" ∧
      errorMessage (some body) 429 "Too Many Requests" = "HTTP 429 Too Many Requests" ∧
      ∀ ms, (Response.ofExchange 429 "Too Many Requests" quotaText ms).error =
        some "HTTP 429 Too Many Requests" := by
  have hparse : parse? quotaText = some (.object [("error", .object [("message", .null)]),
      ("message", .string "Quota exceeded")]) := rfl
  have hline : errorMessage (parse? quotaText) 429 "Too Many Requests" =
      "HTTP 429 Too Many Requests" := by decide +kernel
  refine ⟨_, hparse, rfl, hparse ▸ hline, fun ms => ?_⟩
  rw [error_ofExchange (by decide), hline]

end ApiConsole
