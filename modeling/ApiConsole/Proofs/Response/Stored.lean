import ApiConsole.Proofs.Response.Restore
import ApiConsole.Proofs.Storage

/-!
# Stored responses

A response is written with the value that its text was parsed as, or with null where there is none. So
null itself cannot be told from nothing: a response to the text `null` is read back without a value, and
then counts as a text that is no JSON. All other responses come back, as long as their values hold no
fractions and leave room for the object around them (`Storable`).

Main theorem `stored_response_comes_back_iff`: which responses come back, and what the others have
become.
-/
namespace ApiConsole

open Json Storage

/-! ## Values inside of a record -/

/-- A value that can be read back inside of a record: its numbers are integers, and one more object
around it is not one too many. -/
structure Json.Storable (v : Value) : Prop where
  integers : ∀ x, ¬HasNumber (.real x) v
  shallow : v.nesting < depthLimit

theorem Json.Storable.readsBack {v : Value} (h : Storable v) (hformed : Formed depthLimit v) :
    ReadsBack (depthLimit - 1) v where
  formed := hformed.iff_nesting_le.2 (Nat.le_pred_of_lt h.shallow)
  reread := (reread?_eq_self_iff hformed).2 fun x hx => absurd hx (h.integers x)

namespace Response

/-! ## Making responses -/

/-- The responses that are made: of exchanges, of failures to reach the server, and from records. -/
inductive Made : Response → Prop where
  | exchange (status : UInt16) (reason raw : String) (ms : UInt64) :
      Made (ofExchange status reason raw ms)
  | failure (message : String) (ms : UInt64) : Made (ofTransportFailure message ms)
  | restored (status : UInt16) (raw : String) (ms : UInt64) : Made (restore status raw ms)

variable {r : Response}

/-- **The value of a response is the one that its text is parsed as.** -/
theorem Made.json_eq (h : Made r) : r.json = parse? r.raw := by
  cases h with
  | exchange => rfl
  | failure message => exact (parse?_failurePayload message).symm
  | restored status => unfold restore; split <;> rfl

theorem Made.formed (h : Made r) {v : Value} (hv : r.json = some v) : Formed depthLimit v :=
  formed_of_parse? (h.json_eq.symm.trans hv)

/-! ## Reading what was written -/

/-- A response as it is read back: null has become nothing. -/
def asRead (r : Response) : Response :=
  match r.json with
  | some .null => { r with json := none }
  | _ => r

theorem asRead_of_null (h : r.json = some .null) : r.asRead = { r with json := none } := by
  unfold asRead
  rw [h]

theorem asRead_of_ne_null (h : r.json ≠ some .null) : r.asRead = r := by
  unfold asRead
  split
  · exact absurd ‹_› h
  · rfl

/-- Null and nothing are written alike. -/
theorem write_asRead (r : Response) : write r.asRead = write r := by
  obtain ⟨raw, json, status, ms, error⟩ := r
  cases json with
  | none => rfl
  | some v => cases v <;> rfl

/-- A response is kept if its value is, unless that is null. -/
theorem kept_response (hnull : r.json ≠ some .null)
    (hback : ∀ v, r.json = some v → ReadsBack (depthLimit - 1) v) : Kept r where
  fits := by
    refine ⟨by decide, trivial, ?_, fits_word16 r.status _, fits_word64 _ r.durationMs _, ?_, trivial⟩
    · cases hjson : r.json with
      | none => trivial
      | some v => exact ⟨hback v hjson, fun hv => hnull (hjson.trans (congrArg some hv))⟩
    · cases r.error with
      | none => trivial
      | some message => exact ⟨trivial, nofun⟩
  back := by
    have hwords : Stored.ofDatum? (Stored.toDatum r) =
        some { r with status := .ofNat r.status.toNat, durationMs := .ofNat r.durationMs.toNat } := by
      obtain ⟨raw, json, status, ms, error⟩ := r
      cases json <;> cases error <;> rfl
    rw [hwords, UInt16.ofNat_toNat, UInt64.ofNat_toNat]

/-- **A response is read back as it is, but for null.** -/
theorem comesBack_asRead (hback : ∀ v, r.json = some v → ReadsBack (depthLimit - 1) v) :
    ComesBack r.asRead := by
  by_cases hnull : r.json = some .null
  · rw [asRead_of_null hnull]
    have hkept : Kept { r with json := none } := kept_response (Option.some_ne_none _).symm (by simp)
    exact hkept.comesBack
  · rw [asRead_of_ne_null hnull]
    exact (kept_response hnull hback).comesBack

theorem comesBack_iff (hback : ∀ v, r.json = some v → ReadsBack (depthLimit - 1) v) :
    ComesBack r ↔ r.json ≠ some .null := by
  have hread := (comesBack_asRead hback).text
  rw [write_asRead] at hread
  constructor
  · intro h hnull
    have hsame : r.asRead = r := Except.ok.inj (hread.symm.trans h.text)
    rw [asRead_of_null hnull] at hsame
    have hjson := congrArg json hsame
    rw [hnull] at hjson
    cases hjson
  · intro hnull
    exact (kept_response hnull hback).comesBack

/-! ## All of them -/

theorem failureKind_of_isSuccess (h : r.isSuccess = true) :
    r.failureKind = if r.json.isNone && !r.raw.isEmpty then some .parse else none := by
  have hreached : r.isTransportFailure = false := by
    rw [isTransportFailure, beq_eq_false_iff_ne]
    intro hzero
    rw [isSuccess, hzero] at h
    exact absurd h (by decide)
  unfold failureKind
  rw [hreached, h]
  rfl

/-- A successful response to null is read back as one to a text that is no JSON. -/
theorem failureKind_of_null (h : Made r) (hnull : r.json = some .null) (hsuccess : r.isSuccess = true) :
    r.failureKind = none ∧ r.asRead.failureKind = some .parse := by
  have htext : r.raw.isEmpty = false := by
    have hparse := h.json_eq.symm.trans hnull
    rw [← Bool.not_eq_true, String.isEmpty_iff]
    intro hempty
    rw [hempty] at hparse
    cases hparse
  have hlost : ({ r with json := none } : Response).isSuccess = true := hsuccess
  rw [asRead_of_null hnull, failureKind_of_isSuccess hsuccess, failureKind_of_isSuccess hlost, hnull,
    htext]
  exact ⟨rfl, rfl⟩

/-- **A response comes back from storage unless its value is null.** For every response that is made,
with a value that can be read back inside of a record, if it has one. -/
theorem stored_response_comes_back_iff (h : Made r) (hjson : ∀ v, r.json = some v → Storable v) :
    (ComesBack r ↔ r.json ≠ some .null) ∧
      read Response (write r) = .ok r.asRead ∧
      readBytes Response (write r).toUTF8.data.toList = .ok r.asRead ∧
      (r.json = some .null → r.asRead = { r with json := none } ∧
        (r.isSuccess = true → r.failureKind = none ∧ r.asRead.failureKind = some .parse)) := by
  have hback : ∀ v, r.json = some v → ReadsBack (depthLimit - 1) v :=
    fun v hv => (hjson v hv).readsBack (h.formed hv)
  have hread := comesBack_asRead hback
  rw [← write_asRead]
  refine ⟨comesBack_iff hback, hread.text, hread.bytes, fun hnull => ⟨asRead_of_null hnull, ?_⟩⟩
  exact failureKind_of_null h hnull

/-- A payload with null and the greatest integer in it. -/
def nullPayload : String := "\x7b\"error\":null,\"n\":[18446744073709551615]\x7d"

/-- Null inside of a value comes back. -/
theorem stored_response_comes_back_nested :
    ComesBack (ofExchange 404 "Not Found" nullPayload 7) := by
  have hparse : parse? nullPayload =
      some (.object [("error", .null), ("n", .array [.number (.int 18446744073709551615)])]) := by
    rfl
  have hjson : ∀ v, (ofExchange 404 "Not Found" nullPayload 7).json = some v → Storable v := by
    intro v hv
    obtain rfl := Option.some.inj (hparse.symm.trans hv)
    refine ⟨fun x hx => ?_, by decide⟩
    obtain _ | _ | ⟨hm, hx⟩ := hx
    rw [List.mem_cons, List.mem_singleton] at hm
    obtain rfl | rfl := hm
    · cases hx
    · obtain _ | ⟨hv, hx⟩ := hx
      rw [List.mem_singleton] at hv
      subst hv
      cases hx
  refine (stored_response_comes_back_iff (.exchange ..) hjson).1.2 fun hnull => ?_
  cases hparse.symm.trans hnull

/-- **A response to null does not come back.** It has a value; what is read back has none, and counts as
a text that is no JSON. -/
theorem null_response_lost :
    (ofExchange 200 "OK" "null" 1).json = some .null ∧
      (ofExchange 200 "OK" "null" 1).failureKind = none ∧
      (∃ r, read Response (write (ofExchange 200 "OK" "null" 1)) = .ok r ∧ r.raw = "null" ∧
        r.json = none ∧ r.failureKind = some .parse) ∧
      ¬ComesBack (ofExchange 200 "OK" "null" 1) := by
  have hnull : (ofExchange 200 "OK" "null" 1).json = some .null := by rfl
  have hback : ∀ v, (ofExchange 200 "OK" "null" 1).json = some v → ReadsBack (depthLimit - 1) v := by
    intro v hv
    obtain rfl := Option.some.inj (hnull.symm.trans hv)
    exact ⟨.null _, rfl⟩
  obtain ⟨hkind, hlost⟩ := failureKind_of_null (.exchange 200 "OK" "null" 1) hnull rfl
  have hread := (comesBack_asRead hback).text
  rw [write_asRead] at hread
  exact ⟨hnull, hkind, ⟨_, hread, by rfl, by rfl, hlost⟩, fun h => (comesBack_iff hback).1 h hnull⟩

end Response

end ApiConsole
