import ApiConsole.Proofs.Json.Schema
import ApiConsole.Settings
import ApiConsole.Storage

/-!
# Stored records come back

Settings, requests, snapshots, snippets, entries and whole histories are read back from what was
written of them, as text and as bytes (`stored_records_come_back`). Each is kept because its data
fit the schema of its type and give it back (`Kept`); only a timestamp can keep a record from that,
when it lies outside the calendar.
-/
namespace ApiConsole

open Json Storage

/-! ## Parts -/

theorem Method.fits (m : Method) (depth : Nat) : methods.Fits depth (.choice m.name) := by
  rw [methods, Schema.Fits]
  cases m <;> decide

theorem SnippetTarget.fits (t : SnippetTarget) (depth : Nat) :
    targets.Fits depth (.choice t.storedName) := by
  rw [targets, Schema.Fits]
  cases t <;> decide

theorem fits_word16 (n : UInt16) (depth : Nat) : word16.Fits depth (.word n.toNat) := by
  have hlt := n.toNat_lt
  have hgreatest : greatestWord = 18446744073709551615 := rfl
  have hsize : UInt16.size = 65536 := rfl
  rw [word16, Schema.Fits]
  omega

theorem fits_word64 (name : String) (n : UInt64) (depth : Nat) :
    (Schema.word name (UInt64.size - 1)).Fits depth (.word n.toNat) := by
  have hle : n.toNat ≤ UInt64.size - 1 := Nat.le_pred_of_lt n.toNat_lt
  rw [Schema.Fits]
  exact ⟨hle, hle⟩

theorem texts?_map (texts : List String) : texts? (texts.map .text) = some texts := by
  induction texts with
  | nil => rfl
  | cons s texts ih =>
    rw [texts?] at ih ⊢
    rw [List.map_cons, List.mapM_cons, ih]
    rfl

/-! ## Records -/

theorem kept_settings (s : Settings) : Kept s where
  fits := ⟨by decide, trivial, trivial, s.target.fits _, trivial⟩
  back := by
    change (SnippetTarget.ofStoredName? s.target.storedName).bind
      (fun target => some (⟨s.baseUrl, s.modelHint, target⟩ : Settings)) = some s
    rw [SnippetTarget.ofStoredName?_storedName]
    rfl

theorem kept_request (r : Request) : Kept r where
  fits := by
    refine ⟨by decide, r.method.fits _, trivial, ?_⟩
    cases r.body with
    | none => exact ⟨nofun, trivial⟩
    | some body => exact ⟨⟨trivial, nofun⟩, trivial⟩
  back := by
    obtain ⟨method, url, body⟩ := r
    have hbody : text? (body.map fun body => .something (.text body)) = some body := by
      cases body <;> rfl
    change (Method.ofName? method.name).bind (fun method =>
      (text? (body.map fun body => .something (.text body))).bind fun body =>
        some (⟨method, url, body⟩ : Request)) = _
    rw [Method.ofName?_name, hbody]
    rfl

theorem kept_snapshot (r : RequestSnapshot) : Kept r where
  fits := ⟨by decide, trivial, r.method.fits _, trivial, trivial, trivial, trivial⟩
  back := by
    change (Method.ofName? r.method.name).bind (fun method =>
      some (⟨r.endpointName, method, r.path, r.query, r.body⟩ : RequestSnapshot)) = _
    rw [Method.ofName?_name]
    rfl

theorem kept_snippet (s : Snippet) : Kept s where
  fits := by
    refine ⟨by decide, trivial, s.target.fits _, fun d hd => ?_, trivial⟩
    obtain ⟨text, -, rfl⟩ := List.mem_map.1 hd
    exact trivial
  back := by
    change (SnippetTarget.ofStoredName? s.target.storedName).bind (fun target =>
      (texts? (s.imports.map .text)).bind fun imports =>
        some (⟨s.code, target, imports⟩ : Snippet)) = _
    rw [SnippetTarget.ofStoredName?_storedName, texts?_map]
    rfl

/-- The data of an entry fit at every depth at which an object may be open. -/
theorem HistoryEntry.fits {e : HistoryEntry} (h : e.timestamp.InCalendar) (depth : Nat) :
    (Stored.schema HistoryEntry).Fits (depth + 1) (Stored.toDatum e) :=
  ⟨by decide, trivial, h, trivial, e.method.fits _, trivial, trivial, fits_word16 e.status _,
    fits_word64 _ e.durationMs _, trivial, trivial, trivial⟩

theorem HistoryEntry.ofDatum?_toDatum (e : HistoryEntry) :
    Stored.ofDatum? (Stored.toDatum e) = some e := by
  change (Method.ofName? e.method.name).bind (fun method =>
    some (⟨e.id, e.timestamp, e.endpointName, method, e.path, e.query, .ofNat e.status.toNat,
      .ofNat e.durationMs.toNat, e.requestBody, e.responseBody⟩ : HistoryEntry)) = _
  rw [Method.ofName?_name, UInt16.ofNat_toNat, UInt64.ofNat_toNat]
  rfl

theorem kept_entry {e : HistoryEntry} (h : e.timestamp.InCalendar) : Kept e :=
  ⟨e.fits h _, e.ofDatum?_toDatum⟩

theorem kept_history {h : History} (hentries : ∀ e ∈ h.entries, e.timestamp.InCalendar) :
    Kept h where
  fits := by
    refine ⟨by decide, fun d hd => ?_, fits_word64 _ h.capacity _, trivial⟩
    obtain ⟨e, he, rfl⟩ := List.mem_map.1 hd
    exact e.fits (hentries e he) _
  back := by
    have hback : (h.entries.map Stored.toDatum).mapM Stored.ofDatum? = some h.entries := by
      rw [List.mapM_map]
      exact mapM_eq_some_self_iff.2 fun e _ => e.ofDatum?_toDatum
    change ((h.entries.map Stored.toDatum).mapM Stored.ofDatum?).bind (fun entries =>
      some (⟨entries, .ofNat h.capacity.toNat⟩ : History)) = _
    rw [hback, UInt64.ofNat_toNat]
    rfl

/-! ## All of them -/

/-- **Every record that is stored comes back**, entries and histories as long as their timestamps
lie in the calendar. -/
theorem stored_records_come_back :
    (∀ s : Settings, ComesBack s) ∧ (∀ r : Request, ComesBack r) ∧
      (∀ r : RequestSnapshot, ComesBack r) ∧ (∀ s : Snippet, ComesBack s) ∧
      (∀ e : HistoryEntry, e.timestamp.InCalendar → ComesBack e) ∧
      (∀ h : History, (∀ e ∈ h.entries, e.timestamp.InCalendar) → ComesBack h) :=
  ⟨fun s => (kept_settings s).comesBack, fun r => (kept_request r).comesBack,
    fun r => (kept_snapshot r).comesBack, fun s => (kept_snippet s).comesBack,
    fun _ h => (kept_entry h).comesBack, fun _ h => (kept_history h).comesBack⟩

/-- An entry of the last nanosecond of a leap day, with texts that have to be escaped. -/
def leapDayEntry : HistoryEntry where
  id := "\x22\\"
  timestamp := ⟨2024, 2, 29, 23, 59, 59, 999999999⟩
  endpointName := "Health"
  method := .delete
  path := "/a\tb"
  query := ""
  status := 65535
  durationMs := 18446744073709551615
  requestBody := "\x00\n"
  responseBody := "𝄞"

theorem leap_day_history_comes_back :
    leapDayEntry.timestamp.InCalendar ∧ ComesBack (History.mk [leapDayEntry] 30) := by
  have hdate : leapDayEntry.timestamp.InCalendar := by constructor <;> decide
  exact ⟨hdate, stored_records_come_back.2.2.2.2.2 ⟨[leapDayEntry], 30⟩
    (List.forall_mem_singleton.2 hdate)⟩

end ApiConsole
