import ApiConsole.Proofs.Request.Compose
import ApiConsole.Proofs.Session.Provenance
import ApiConsole.Proofs.Session.Replay

/-!
# The address that is shown and the one that is sent

An operation sets path and query to those of an endpoint, puts one of the two into normal form, takes
both from an entry, or leaves them (`addressEffect_step`). So the path of a session is in normal form
at all times (`normalizePath_run`), and every query that a session shows, captures or records is empty
or the normal form of a text that was set (`QueriesFrom.run`).

Main theorem `url_shows_address`: the URL of a request is the base, the path as it is shown and the
query in normal form. The query stands in it as it is shown exactly if a second normalization leaves
it as it is; it always does unless a text was set whose normal form begins with a blank or with a
question mark.
-/
namespace ApiConsole.Session

/-! ## What an operation does to path and query -/

/-- The effect of an operation on the path and the query. -/
inductive AddressEffect (s : Session) (op : Op) (s' : Session) : Prop where
  | endpoint (id : EndpointId) (hpath : s'.path = id.endpoint.path) (hquery : s'.query = "")
  | path (text : String) (hpath : s'.path = normalizePath text) (hquery : s'.query = s.query)
  | query (text : String) (hop : op = .setQuery text) (hpath : s'.path = s.path)
    (hquery : s'.query = normalizeQuery text)
  | entry (e : HistoryEntry) (he : e ∈ s.history.entries) (id : EndpointId)
    (hpath : s'.path = id.endpoint.path) (hquery : s'.query = e.query)
  | keep (hpath : s'.path = s.path) (hquery : s'.query = s.query)

/-- An entry without a route keeps the address, one with a route brings its own. -/
theorem addressEffect_restore {s : Session} {e : HistoryEntry} (op : Op)
    (he : e ∈ s.history.entries) : AddressEffect s op (s.restore e).1 := by
  cases htarget : (s.restore e).2 with
  | textOnly =>
    obtain ⟨-, hpath, hquery, -⟩ := frame_of_textOnly htarget
    exact .keep hpath hquery
  | endpoint id =>
    obtain ⟨endpoint, hroute⟩ := route_of_restore htarget
    obtain ⟨-, hpath, hquery⟩ := restore_of_route (s := s) hroute
    obtain ⟨-, hroutePath, hid⟩ := Catalog.of_findRoute hroute
    refine .entry e he endpoint.id ?_ hquery
    rw [hpath, hid, hroutePath]

/-- **One step.** All that an operation can do to the path and the query. -/
theorem addressEffect_step (s : Session) (op : Op) : AddressEffect s op (s.step op) := by
  cases op with
  | select id => exact .endpoint id rfl rfl
  | setPath text => exact .path text rfl rfl
  | setQuery text => exact .query text rfl rfl rfl
  | format =>
    cases hf : formatJson s.editor with
    | error refusal =>
      rw [step_format, formatDraft_of_error hf]
      exact .keep rfl rfl
    | ok text =>
      rw [step_format, formatDraft_of_ok hf]
      exact .keep rfl rfl
  | issue =>
    show AddressEffect s .issue s.beginSend.1
    cases hp : s.composed.prepare with
    | error e => rw [beginSend_of_prepare_error hp]; exact .keep rfl rfl
    | ok r => rw [beginSend_of_prepare_ok hp]; exact .keep rfl rfl
  | complete d =>
    show AddressEffect s (.complete d) (s.completeSend d.seq d.outcome)
    rw [completeSend_eq]
    exact .keep rfl rfl
  | replay name =>
    cases he : s.history.get? name with
    | none => rw [step_replay, replay_of_get?_none he]; exact .keep rfl rfl
    | some e =>
      rw [step_replay, replay_of_get? he]
      exact addressEffect_restore _ (List.mem_of_find?_eq_some he)
  | replayNth place =>
    cases he : s.history.nth? place with
    | none => rw [step_replayNth, replayNth_of_nth?_none he]; exact .keep rfl rfl
    | some e =>
      rw [step_replayNth, replayNth_of_nth? he]
      exact addressEffect_restore _ (List.mem_of_getElem? he)
  | edit | reset | setModel | recordError | clearHistory | finish => exact .keep rfl rfl

/-! ## Paths along a run -/

theorem normalizePath_step {s : Session} (h : normalizePath s.path = s.path) (op : Op) :
    normalizePath (s.step op).path = (s.step op).path := by
  have heff := addressEffect_step s op
  cases heff with
  | endpoint id hpath _ | entry _ _ id hpath _ => rw [hpath, normalizePath_endpoint]
  | path text hpath _ => rw [hpath, normalizePath_idem]
  | query _ _ hpath _ | keep hpath _ => rw [hpath, h]

theorem normalizePath_run (baseUrl hint : String) (rule : ImageRule) (ops : List Op) :
    normalizePath ((start baseUrl hint rule).run ops).path =
      ((start baseUrl hint rule).run ops).path := by
  have hrun : ∀ (ops : List Op) (s : Session), normalizePath s.path = s.path →
      normalizePath (s.run ops).path = (s.run ops).path := by
    intro ops
    induction ops with
    | nil => intro s h; exact h
    | cons op ops ih => intro s h; exact ih (s.step op) (normalizePath_step h op)
  exact hrun ops _ (normalizePath_endpoint .health)

/-! ## Queries along a run -/

/-- A query is empty, or the normal form of a text that an operation sets. -/
def SetBy (ops : List Op) (query : String) : Prop :=
  query = "" ∨ ∃ text, .setQuery text ∈ ops ∧ query = normalizeQuery text

theorem SetBy.append {ops : List Op} {query : String} (h : SetBy ops query) (more : List Op) :
    SetBy (ops ++ more) query := by
  rcases h with h | ⟨text, hmem, h⟩
  · exact .inl h
  · exact .inr ⟨text, List.mem_append_left _ hmem, h⟩

/-- The queries that a session shows, has captured and has recorded were set by the operations. -/
structure QueriesFrom (ops : List Op) (evs : List Event) (s : Session) : Prop where
  shown : SetBy ops s.query
  captured : ∀ p, .issued p ∈ evs → SetBy ops p.query
  recorded : ∀ e ∈ s.history.entries, SetBy ops e.query

/-- The query that is shown behind an operation. -/
theorem QueriesFrom.query_step {ops : List Op} {evs : List Event} {s : Session}
    (h : QueriesFrom ops evs s) (op : Op) : SetBy (ops ++ [op]) (s.step op).query := by
  have heff := addressEffect_step s op
  cases heff with
  | endpoint _ _ hquery => exact .inl hquery
  | path _ _ hquery | keep _ hquery => rw [hquery]; exact h.shown.append _
  | query text hop _ hquery => exact .inr ⟨text, by simp [hop], hquery⟩
  | entry e he _ _ hquery => rw [hquery]; exact (h.recorded e he).append _

theorem QueriesFrom.run {baseUrl hint : String} {rule : ImageRule} {ops : List Op}
    (hg : Genuine ((start baseUrl hint rule).trace ops)) :
    QueriesFrom ops ((start baseUrl hint rule).trace ops) ((start baseUrl hint rule).run ops) := by
  induction ops using List.reverseRecOn with
  | nil =>
    refine ⟨.inl rfl, fun p hp => by simp at hp, fun e he => ?_⟩
    simp [start, select] at he
  | append_singleton ops op ih =>
    rw [trace_append] at hg
    have h := ih hg.left
    have hcaptured : ∀ p, .issued p ∈ (start baseUrl hint rule).trace (ops ++ [op]) →
        SetBy (ops ++ [op]) p.query := by
      intro p hp
      rw [trace_append, List.mem_append] at hp
      rcases hp with hp | hp
      · exact (h.captured p hp).append _
      · -- The last operation captures the query that is shown.
        obtain ⟨before, after, hops, hbegin⟩ := exists_run_of_issued hp
        obtain rfl : before = [] := by
          cases before with
          | nil => rfl
          | cons _ before => simp at hops
        rw [(beginSend_eq_ok_iff.1 hbegin).2.2.2.2]
        exact h.shown.append _
    refine ⟨?_, hcaptured, ?_⟩
    · rw [run_append]
      exact h.query_step op
    · intro e he
      rw [← trace_append] at hg
      obtain ⟨p, client, stamp, hp, -, rfl⟩ := exists_issued_of_entry hg he
      exact hcaptured p hp

/-- Texts that are set in a run without a trap: what stands behind their question mark begins neither
with a blank nor with another question mark. -/
def SetsPlain (ops : List Op) : Prop :=
  ∀ text, .setQuery text ∈ ops → StartsPlain (normalizeQuery text)

theorem SetBy.normalized {ops : List Op} {query : String} (h : SetBy ops query)
    (hops : SetsPlain ops) : normalizeQuery query = query := by
  rcases h with rfl | ⟨text, hmem, rfl⟩
  · exact normalizeQuery_empty
  · exact normalizeQuery_idem_iff.2 (hops text hmem)

/-! ## URLs along a run -/

theorem url_composed (s : Session) : s.composed.url = composeUrl s.baseUrl s.path s.query := by
  simp only [composed, composeRequest]

theorem baseUrl_start (baseUrl hint : String) (rule : ImageRule) :
    (start baseUrl hint rule).baseUrl = baseUrl := rfl

/-- The URL of a send is composed of the address that it captured, and its path is in normal form. -/
theorem url_of_issued {baseUrl hint : String} {rule : ImageRule} {ops : List Op} {p : PendingSend}
    (h : .issued p ∈ (start baseUrl hint rule).trace ops) :
    p.request.url = composeUrl baseUrl p.path p.query ∧ normalizePath p.path = p.path := by
  obtain ⟨before, after, -, hbegin⟩ := exists_run_of_issued h
  obtain ⟨hprep, -, -, hpath, hquery⟩ := beginSend_eq_ok_iff.1 hbegin
  obtain ⟨-, hurl, -⟩ := Request.prepare_eq_ok_iff.1 hprep
  rw [hurl, hpath, hquery, url_composed, baseUrl_run, baseUrl_start]
  exact ⟨rfl, normalizePath_run baseUrl hint rule before⟩

/-- **The path that is shown and recorded is the one that is sent, and the query is if a second
normalization leaves it as it is.** For every run of a new session. -/
theorem url_shows_address (baseUrl hint : String) (rule : ImageRule) (ops : List Op) {s : Session}
    (hs : s = (start baseUrl hint rule).run ops) :
    s.composed.url = normalizeBase baseUrl ++ s.path ++ querySuffix (normalizeQuery s.query) ∧
    (s.composed.url = normalizeBase baseUrl ++ s.path ++ querySuffix s.query ↔
      normalizeQuery s.query = s.query) ∧
    (Genuine ((start baseUrl hint rule).trace ops) →
      ∀ e ∈ s.history.entries, ∃ p client stamp,
        .issued p ∈ (start baseUrl hint rule).trace ops ∧
        (p.execute client stamp).sent = [p.request] ∧ e = (p.answered client stamp).entry ∧
        p.request.url = normalizeBase baseUrl ++ e.path ++ querySuffix (normalizeQuery e.query) ∧
        (p.request.url = normalizeBase baseUrl ++ e.path ++ querySuffix e.query ↔
          normalizeQuery e.query = e.query)) ∧
    (SetsPlain ops → Genuine ((start baseUrl hint rule).trace ops) →
      normalizeQuery s.query = s.query ∧
      ∀ e ∈ s.history.entries, normalizeQuery e.query = e.query) := by
  subst hs
  have hpath := normalizePath_run baseUrl hint rule ops
  have hurl : ((start baseUrl hint rule).run ops).composed.url =
      composeUrl baseUrl ((start baseUrl hint rule).run ops).path
        ((start baseUrl hint rule).run ops).query := by
    rw [url_composed, baseUrl_run, baseUrl_start]
  refine ⟨?_, ?_, ?_, ?_⟩
  · rw [hurl, composeUrl_eq, hpath]
  · rw [hurl]
    exact composeUrl_eq_iff hpath
  · intro hg e he
    obtain ⟨p, client, stamp, hp, hsent, rfl⟩ := exists_issued_of_entry hg he
    obtain ⟨hurl, hpath⟩ := url_of_issued hp
    refine ⟨p, client, stamp, hp, hsent, rfl, ?_, ?_⟩
    · rw [hurl, composeUrl_eq, hpath]
      rfl
    · rw [hurl]
      exact composeUrl_eq_iff hpath
  · intro hplain hg
    have h := QueriesFrom.run hg
    exact ⟨h.shown.normalized hplain, fun e he => (h.recorded e he).normalized hplain⟩

/-- A health check with a query, sent and not answered in time. -/
def limitedCheck : PendingSend where
  seq := 1
  request := ⟨.get, "http://h/health?limit=5", none⟩
  endpointName := "Health Check"
  path := "/health"
  query := "limit=5"

def limitedCheckOps : List Op :=
  [.setQuery " ?limit=5 ", .issue,
    .complete ⟨1, limitedCheck.answered (fun _ => .error .timedOut) firstStamp⟩]

theorem url_shows_address_limited :
    ((start "http://h" "m" .heuristic).run limitedCheckOps).composed.url =
        normalizeBase "http://h" ++ ((start "http://h" "m" .heuristic).run limitedCheckOps).path ++
          querySuffix ((start "http://h" "m" .heuristic).run limitedCheckOps).query ∧
      ∀ e ∈ ((start "http://h" "m" .heuristic).run limitedCheckOps).history.entries,
        normalizeQuery e.query = e.query ∧
          ∃ p client stamp, e = (PendingSend.answered p client stamp).entry ∧
            p.request.url = normalizeBase "http://h" ++ e.path ++ querySuffix e.query := by
  obtain ⟨-, hshown, hentries, hplain⟩ :=
    url_shows_address "http://h" "m" .heuristic limitedCheckOps rfl
  have hgenuine : Genuine ((start "http://h" "m" .heuristic).trace limitedCheckOps) := by
    have hissued : Genuine [.issued limitedCheck] := genuine_nil.concat nofun
    refine hissued.concat ?_
    rintro d ⟨⟩
    exact ⟨limitedCheck, fun _ => .error .timedOut, firstStamp, .head _, rfl, rfl⟩
  have hsets : SetsPlain limitedCheckOps := by
    intro text htext
    rw [limitedCheckOps, List.mem_cons] at htext
    rcases htext with htext | htext
    · cases htext
      decide
    · simp at htext
  obtain ⟨hquery, hrecorded⟩ := hplain hsets hgenuine
  refine ⟨hshown.2 hquery, ?_⟩
  intro e he
  obtain ⟨p, client, stamp, -, -, hentry, -, hurl⟩ := hentries hgenuine e he
  exact ⟨hrecorded e he, p, client, stamp, hentry, hurl.2 (hrecorded e he)⟩

/-- A blank behind the question mark is shown and recorded, but not sent. -/
theorem url_hides_blank :
    ((start "http://h" "m" .heuristic).run [.setQuery "? limit=5"]).query = " limit=5" ∧
      ((start "http://h" "m" .heuristic).run [.setQuery "? limit=5"]).composed.url =
        "http://h/health?limit=5" ∧
      ((start "http://h" "m" .heuristic).run [.setQuery "? limit=5"]).composed.url ≠
        normalizeBase "http://h" ++
          ((start "http://h" "m" .heuristic).run [.setQuery "? limit=5"]).path ++
          querySuffix ((start "http://h" "m" .heuristic).run [.setQuery "? limit=5"]).query := by
  decide +kernel

end ApiConsole.Session
