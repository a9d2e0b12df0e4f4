import ApiConsole.Proofs.Console.Provenance
import ApiConsole.Proofs.Session.Drafts
import ApiConsole.Proofs.Session.Format
import ApiConsole.Proofs.Session.FreshDraft

/-!
# Drafts of endpoints that take no body

An endpoint of method GET has no template, the entries of its requests have no body, and a body that is
given while it is active is refused. So a move leaves its draft as it is or empties it, but for `format`,
which writes what it makes of the editor without asking for the method (`draft_step`). The editor holds
something to format after the replay of an entry to which no endpoint has the route
(`get_draft_written`).

Main theorem `get_draft_empty_iff`: the draft of such an endpoint stays empty along a run exactly if no
command formats it.
-/
namespace ApiConsole

/-! ## Endpoints of method GET -/

/-- An endpoint of method GET has no template. -/
theorem templateText_of_get {id : EndpointId} (h : id.endpoint.method = .get) (hint : String) :
    id.templateText hint = "" := by
  rw [templateText_eq_empty_iff, Option.eq_none_iff_forall_ne_some]
  intro v hv
  have hcarries := carriesBody_of_template hv
  rw [h] at hcarries
  cases hcarries

theorem formatJson_ne_empty {text formatted : String} (h : formatJson text = .ok formatted) :
    formatted ≠ "" := by
  obtain ⟨v, -, rfl⟩ := formatJson_eq_ok_iff.1 h
  obtain ⟨c, rest, htext, -⟩ := Json.head_indented v 0
  intro hempty
  have hnil : v.indented 0 = [] := by
    rw [← String.toList_ofList (l := v.indented 0)]
    exact congrArg String.toList hempty
  rw [hnil] at htext
  cases htext

namespace Console

open Session (WritesDraft)

variable {id : EndpointId}

/-- An entry of a request of method GET has no body. -/
theorem requestBody_of_get {baseUrl hint : String} {rule : ImageRule} {target : SnippetTarget}
    {moves : List Move} {e : HistoryEntry}
    (h : e ∈ ((start (.start baseUrl hint rule) target).run moves).session.history.entries)
    (hget : e.method = .get) : e.requestBody = "" := by
  obtain ⟨r, hr, hmethod, hbody⟩ := exists_sendable_of_entry h
  rw [hbody, hr.body_eq_none (hmethod.symm.trans hget)]
  rfl

/-! ## What a move writes -/

/-- Completions write no draft. -/
theorem drafts_run_completions (s : Session) (dones : List Completion) :
    (s.run (dones.map Completion.op)).drafts = s.drafts := by
  induction dones generalizing s with
  | nil => rfl
  | cons done dones ih =>
    rw [List.map_cons, Session.run_cons, ih]
    unfold Completion.op
    cases done.result with
    | error e => rfl
    | ok outcome =>
      change (s.completeSend done.seq outcome).drafts = _
      rw [Session.completeSend_eq]

/-- The endpoint is active, and formatting the editor gives a text. -/
def Formats (c : Console) (id : EndpointId) (text : String) : Prop :=
  c.session.active = id ∧ formatJson c.session.editor = .ok text

/-- **One move.** The draft of an endpoint without a body stays as it is, or is emptied, or is written
by `format`. -/
theorem draft_step {c : Console} (hget : id.endpoint.method = .get)
    (hentries : ∀ e ∈ c.session.history.entries, e.method = .get → e.requestBody = "") (m : Move) :
    (c.step m).session.drafts.text id = c.session.drafts.text id ∨
      (c.step m).session.drafts.text id = "" ∨
      ∃ now, m = .execute now .format ∧
        c.Formats id ((c.step m).session.drafts.text id) := by
  rw [session_step]
  unfold Drafts.text
  cases m with
  | drain | take => exact .inl (by rw [moveOps, drafts_run_completions])
  | finish a => exact .inl rfl
  | execute now command =>
    by_cases hw : command = .wait
    · subst hw
      exact .inl (by rw [moveOps, commandOps, drafts_run_completions])
    rw [moveOps]
    obtain hops | ⟨op, hops, hop, -, hedit, hformat⟩ := commandOps_cases c hw
    · rw [hops]
      exact .inl rfl
    rw [hops, Session.run_cons, Session.run_nil]
    by_cases hwrites : ∃ text, WritesDraft c.session id op text
    · obtain ⟨text, hwrites⟩ := hwrites
      rw [Session.get?_drafts_of_writes hwrites, Option.getD_some]
      right
      cases hwrites with
      | seed | reset => exact .inl (templateText_of_get hget _)
      | edit hactive text =>
        have haccepts : id.endpoint.method.carriesBody = true := by
          rw [← hactive]
          exact hedit text rfl
        rw [hget] at haccepts
        cases haccepts
      | format hactive hf => exact .inr ⟨now, by rw [hformat rfl], hactive, hf⟩
      | @replay _ e he hroute =>
        exact .inl (hentries e (List.mem_of_find?_eq_some he) (hroute.1.trans hget))
      | @replayNth _ e he hroute =>
        exact .inl (hentries e (List.mem_of_getElem? he) (hroute.1.trans hget))
    · rw [Session.get?_drafts_of_not_writes hop fun text h => hwrites ⟨text, h⟩]
      exact .inl rfl

/-! ## Along a run -/

theorem draft_start (hget : id.endpoint.method = .get) (baseUrl hint : String) (rule : ImageRule) :
    (Session.start baseUrl hint rule).drafts.text id = "" := by
  change ((Drafts.empty.seed .health hint).get? id).getD "" = ""
  by_cases hid : id = .health
  · subst hid
    rw [Drafts.get?_seed_self]
    exact templateText_of_get hget hint
  · rw [Drafts.get?_seed_of_ne _ hid]
    rfl

/-- **A draft of an endpoint without a body was written by `format`**, unless it is empty. -/
theorem exists_format_of_draft {baseUrl hint : String} {rule : ImageRule} {target : SnippetTarget}
    {c₀ : Console} (h₀ : c₀ = start (.start baseUrl hint rule) target)
    (hget : id.endpoint.method = .get) {moves : List Move}
    (h : (c₀.run moves).session.drafts.text id ≠ "") :
    ∃ before now after, moves = before ++ .execute now .format :: after ∧
      (c₀.run before).Formats id ((c₀.run moves).session.drafts.text id) := by
  induction moves using List.reverseRecOn with
  | nil =>
    rw [h₀] at h
    exact absurd (draft_start hget ..) h
  | append_singleton moves m ih =>
    have hentries : ∀ e ∈ (c₀.run moves).session.history.entries, e.method = .get →
        e.requestBody = "" := by
      rw [h₀]
      exact fun e he => requestBody_of_get he
    rw [run_append, run_cons, run_nil] at h ⊢
    obtain hsame | hempty | ⟨now, rfl, hformats⟩ := draft_step hget hentries m
    · rw [hsame] at h ⊢
      obtain ⟨before, now, after, rfl, hformats⟩ := ih h
      exact ⟨before, now, after ++ [m], by simp, hformats⟩
    · exact absurd hempty h
    · exact ⟨moves, now, [], rfl, hformats⟩

theorem coherent_run {baseUrl hint : String} {rule : ImageRule} {target : SnippetTarget}
    {c₀ : Console} (h₀ : c₀ = start (.start baseUrl hint rule) target) (moves : List Move) :
    (c₀.run moves).session.Coherent (c₀.session.ties (c₀.sessionOps moves)).getLast? := by
  have hcoherent := (Session.coherent_start baseUrl hint rule).run
    (finish_not_mem_sessionOps (start (.start baseUrl hint rule) target) moves)
  rw [Option.or_none] at hcoherent
  rw [h₀, session_run]
  exact hcoherent

/-- An endpoint whose draft is empty has something to format only if the editor was loosened from the
draft last. -/
theorem loosened_of_formats {baseUrl hint : String} {rule : ImageRule} {target : SnippetTarget}
    {c₀ : Console} (h₀ : c₀ = start (.start baseUrl hint rule) target) {moves : List Move}
    {text : String} (hempty : (c₀.run moves).session.drafts.text id = "")
    (hformats : (c₀.run moves).Formats id text) :
    (c₀.session.ties (c₀.sessionOps moves)).getLast? = some .loosened := by
  obtain ⟨hactive, hformat⟩ := hformats
  obtain ⟨draft, hdraft, heditor⟩ := coherent_run h₀ moves
  rw [hactive] at hdraft
  have hblank : draft = "" := by
    rw [Drafts.text, hdraft] at hempty
    exact hempty
  by_contra hlast
  rw [heditor hlast, hblank] at hformat
  cases hformat

/-- **The draft of an endpoint without a body stays empty along a run exactly if no command formats
it.** A draft that is not empty was written by `format`, and the first time that this happens the editor
shows an entry to which no endpoint has the route. -/
theorem get_draft_empty_iff (hget : id.endpoint.method = .get) (baseUrl hint : String)
    (rule : ImageRule) (target : SnippetTarget) (moves : List Move) (c₀ : Console)
    (h₀ : c₀ = start (.start baseUrl hint rule) target) :
    ((∀ before, before <+: moves → (c₀.run before).session.drafts.text id = "") ↔
      ∀ before now after text, moves = before ++ .execute now .format :: after →
        ¬ (c₀.run before).Formats id text) ∧
    ((c₀.run moves).session.drafts.text id ≠ "" →
      ∃ before now after, moves = before ++ .execute now .format :: after ∧
        (c₀.run before).Formats id ((c₀.run moves).session.drafts.text id)) ∧
    ∀ text, (c₀.run moves).session.drafts.text id = "" → (c₀.run moves).Formats id text →
      (c₀.session.ties (c₀.sessionOps moves)).getLast? = some .loosened := by
  refine ⟨⟨?_, ?_⟩, exists_format_of_draft h₀ hget, fun text => loosened_of_formats h₀⟩
  · rintro hall before now after text rfl ⟨hactive, hformat⟩
    have hafter := hall (before ++ [.execute now .format]) ⟨after, by simp⟩
    have hwrites : WritesDraft (c₀.run before).session id .format text := .format hactive hformat
    rw [run_append, run_cons, run_nil, session_step] at hafter
    unfold Drafts.text at hafter
    change (((c₀.run before).session.step .format).drafts.get? id).getD "" = "" at hafter
    rw [Session.get?_drafts_of_writes hwrites] at hafter
    exact formatJson_ne_empty hformat hafter
  · rintro hnone before ⟨after, rfl⟩
    by_contra hdraft
    obtain ⟨first, now, middle, rfl, hformats⟩ := exists_format_of_draft h₀ hget hdraft
    exact hnone first now (middle ++ after) _ (by simp) hformats

/-- A scan under a path that no endpoint has, and its replay while an endpoint of method GET is
active. -/
def strayReplay : List Move :=
  [.execute firstStamp.timestamp (.select .modelsScan),
    .execute firstStamp.timestamp (.body (.set "[]")),
    .execute firstStamp.timestamp (.path (some "/scan")), .execute firstStamp.timestamp .send,
    .finish ⟨1, fun _ => .error .timedOut, firstStamp⟩, .execute firstStamp.timestamp .wait,
    .execute firstStamp.timestamp (.select .health),
    .execute firstStamp.timestamp (.replay (.position 1))]

/-- The body of the scan is in the editor, but not in the draft. -/
theorem get_draft_empty_iff_stray :
    EndpointId.health.endpoint.method = .get ∧
      (∀ before, before <+: strayReplay →
        ((start (.start "http://h" "m" .heuristic) .curl).run before).session.drafts.text .health =
          "") ∧
      ((start (.start "http://h" "m" .heuristic) .curl).run strayReplay).Formats .health "[]" ∧
      ((Session.start "http://h" "m" .heuristic).ties
          ((start (.start "http://h" "m" .heuristic) .curl).sessionOps strayReplay)).getLast? =
        some .loosened := by
  have hget : EndpointId.health.endpoint.method = .get := rfl
  obtain ⟨hiff, -, hloosened⟩ :=
    get_draft_empty_iff hget "http://h" "m" .heuristic .curl strayReplay _ rfl
  have hnone : ∀ now, .execute now .format ∉ strayReplay := by simp [strayReplay]
  have hempty := hiff.2 fun before now after text hmoves _ => hnone now (by rw [hmoves]; simp)
  have hformats : ((start (.start "http://h" "m" .heuristic) .curl).run strayReplay).Formats .health
      "[]" := by
    simp only [strayReplay, run_cons, step_wait]
    exact ⟨rfl, rfl⟩
  exact ⟨hget, hempty, hformats,
    hloosened "[]" (hempty strayReplay (List.prefix_refl _)) hformats⟩

/-- **`format` gives an endpoint without a body a draft.** -/
theorem get_draft_written :
    EndpointId.health.endpoint.method = .get ∧
      ((start (.start "http://h" "m" .heuristic) .curl).run
        (strayReplay ++ [.execute firstStamp.timestamp .format])).session.drafts.get? .health =
          some "[]" := by
  simp only [strayReplay, List.cons_append, List.nil_append, run_cons, step_wait]
  exact ⟨rfl, rfl⟩

end Console

end ApiConsole
