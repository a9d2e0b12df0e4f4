import ApiConsole.Proofs.Session.Replay

/-!
# Drafts and the editor

The text of a body stands in two places: in the editor, and among the drafts under its endpoint.
What writes a draft is listed in `WritesDraft`, and nothing else changes it (`get?_drafts_of_writes`,
`get?_drafts_of_not_writes`). An operation activates an endpoint, writes the draft of the active one,
restores an entry, or keeps all the texts (`textEffect_step`). The first two tie the editor to the
draft of the active endpoint, and so does an entry with a route; an entry without one loosens the tie.
So the two agree along a run unless the tie was loosened last (`Coherent.run`).

Main theorem `drafts_isolated`: a draft changes only when it is seeded, edited as the active one or
restored by its route; the active endpoint has a draft at all times, and the editor shows it unless an
entry without an endpoint was restored since.
-/
namespace ApiConsole

/-! ## Routes -/

/-- No two endpoints share method and path. -/
theorem EndpointId.eq_of_route {a b : EndpointId}
    (hmethod : a.endpoint.method = b.endpoint.method) (hpath : a.endpoint.path = b.endpoint.path) :
    a = b := by
  have hn : (all.map fun id => (id.endpoint.method, id.endpoint.path)).Nodup := by decide +kernel
  exact List.inj_on_of_nodup_map hn (mem_all a) (mem_all b) (by rw [hmethod, hpath])

/-- Whether an entry has the method and the path of an endpoint. -/
def HistoryEntry.RoutesTo (e : HistoryEntry) (id : EndpointId) : Prop :=
  e.method = id.endpoint.method ∧ e.path = id.endpoint.path

theorem Catalog.findRoute_eq_some_iff {e : HistoryEntry} {id : EndpointId} :
    findRoute e.method e.path = some id.endpoint ↔ e.RoutesTo id := by
  constructor
  · intro h
    obtain ⟨hmethod, hpath, -⟩ := of_findRoute h
    exact ⟨hmethod.symm, hpath.symm⟩
  · rintro ⟨hmethod, hpath⟩
    cases h : findRoute e.method e.path with
    | none =>
      have := List.find?_eq_none.1 h _ (mem_endpoints id)
      simp [hmethod, hpath] at this
    | some endpoint =>
      obtain ⟨hmethod', hpath', hid⟩ := of_findRoute h
      rw [← hid] at hmethod' hpath' ⊢
      rw [EndpointId.eq_of_route (hmethod'.trans hmethod) (hpath'.trans hpath)]

/-! ## Seeding -/

namespace Drafts

theorem get?_seed_self (d : Drafts) (id : EndpointId) (hint : String) :
    (d.seed id hint).get? id = some ((d.get? id).getD (id.templateText hint)) := by
  cases h : d.get? id with
  | none => exact get?_seed_of_none h hint
  | some text => rw [get?_seed_of_some h, h]; rfl

theorem get?_seed_of_ne (d : Drafts) {id e : EndpointId} (h : e ≠ id) (hint : String) :
    (d.seed id hint).get? e = d.get? e := by
  unfold seed
  split
  · rfl
  · exact get?_set_of_ne d h _

end Drafts

namespace Session

/-! ## What an operation writes -/

/-- The operations that write the draft of an endpoint, with the texts that they write. -/
inductive WritesDraft (s : Session) (id : EndpointId) : Op → String → Prop where
  | seed (h : s.drafts.get? id = none) :
    WritesDraft s id (.select id) (id.templateText s.modelHint)
  | edit (h : s.active = id) (text : String) : WritesDraft s id (.edit text) text
  | reset (h : s.active = id) : WritesDraft s id .reset (id.templateText s.modelHint)
  | format (h : s.active = id) {text : String} (hf : formatJson s.editor = .ok text) :
    WritesDraft s id .format text
  | replay {name : String} {e : HistoryEntry} (he : s.history.get? name = some e)
    (hroute : e.RoutesTo id) : WritesDraft s id (.replay name) e.requestBody
  | replayNth {place : Nat} {e : HistoryEntry} (he : s.history.nth? place = some e)
    (hroute : e.RoutesTo id) : WritesDraft s id (.replayNth place) e.requestBody

/-- What an operation does to the tie between the editor and the draft of the active endpoint. -/
inductive Tie where
  | tied
  | loosened
  deriving DecidableEq

/-- A replay ties the two if an endpoint became active. -/
def Tie.ofTarget : ReplayTarget → Tie
  | .endpoint _ => .tied
  | .textOnly => .loosened

/-- What an operation does to the tie; nothing if it is refused or touches neither text. -/
def tie? (s : Session) : Op → Option Tie
  | .select _ | .edit _ | .reset => some .tied
  | .format => s.formatDraft.2.toOption.map fun _ => .tied
  | .replay id => (s.replay id).2.toOption.map .ofTarget
  | .replayNth place => (s.replayNth place).2.toOption.map .ofTarget
  | _ => none

theorem tie?_format (s : Session) :
    s.tie? .format = s.formatDraft.2.toOption.map fun _ => .tied := rfl

theorem tie?_replay (s : Session) (id : String) :
    s.tie? (.replay id) = (s.replay id).2.toOption.map .ofTarget := rfl

theorem tie?_replayNth (s : Session) (place : Nat) :
    s.tie? (.replayNth place) = (s.replayNth place).2.toOption.map .ofTarget := rfl

/-- The effect of an operation on the editor and on the drafts, with what it does to the tie. -/
inductive TextEffect (s : Session) (op : Op) : Option Tie → Session → Prop where
  | select (id : EndpointId) (h : s.drafts.get? id = none →
      WritesDraft s id op (id.templateText s.modelHint)) :
    TextEffect s op (some .tied) (s.select id)
  | write (text : String) (h : ∀ id, s.active = id → WritesDraft s id op text) :
    TextEffect s op (some .tied) (s.editDraft text)
  | restore (e : HistoryEntry) (h : ∀ id, e.RoutesTo id → WritesDraft s id op e.requestBody) :
    TextEffect s op (some (.ofTarget (s.restore e).2)) (s.restore e).1
  | keep {s' : Session} (hdrafts : s'.drafts = s.drafts) (hactive : s'.active = s.active)
    (heditor : s'.editor = s.editor) : TextEffect s op none s'

/-- **One step.** All that an operation can do to the editor and to the drafts. -/
theorem textEffect_step (s : Session) {op : Op} (hop : op ≠ .finish) :
    TextEffect s op (s.tie? op) (s.step op) := by
  cases op with
  | select id => exact .select id .seed
  | edit text => exact .write text fun id h => .edit h text
  | reset => exact .write _ fun id h => by subst h; exact .reset rfl
  | format =>
    rw [tie?_format, step_format]
    cases hf : formatJson s.editor with
    | error refusal =>
      rw [formatDraft_of_error hf]
      exact .keep rfl rfl rfl
    | ok text =>
      rw [formatDraft_of_ok hf]
      exact .write text fun id h => .format h hf
  | issue =>
    show TextEffect s .issue none s.beginSend.1
    cases hp : s.composed.prepare with
    | error e => rw [beginSend_of_prepare_error hp]; exact .keep rfl rfl rfl
    | ok r => rw [beginSend_of_prepare_ok hp]; exact .keep rfl rfl rfl
  | complete d =>
    show TextEffect s (.complete d) none (s.completeSend d.seq d.outcome)
    rw [completeSend_eq]
    exact .keep rfl rfl rfl
  | replay name =>
    rw [tie?_replay, step_replay]
    cases he : s.history.get? name with
    | none =>
      rw [replay_of_get?_none he]
      exact .keep rfl rfl rfl
    | some e =>
      rw [replay_of_get? he]
      exact .restore e fun id h => .replay he h
  | replayNth place =>
    rw [tie?_replayNth, step_replayNth]
    cases he : s.history.nth? place with
    | none =>
      rw [replayNth_of_nth?_none he]
      exact .keep rfl rfl rfl
    | some e =>
      rw [replayNth_of_nth? he]
      exact .restore e fun id h => .replayNth he h
  | finish => exact absurd rfl hop
  | setPath | setQuery | setModel | recordError | clearHistory => exact .keep rfl rfl rfl

/-! ## Isolation -/

theorem drafts_restore_of_routesTo {s : Session} {e : HistoryEntry} {id : EndpointId}
    (h : e.RoutesTo id) : (s.restore e).1.drafts = s.drafts.set id e.requestBody := by
  rw [drafts_restore_of_route (Catalog.findRoute_eq_some_iff.2 h), EndpointId.id_endpoint]

theorem get?_restore_of_not_routesTo {s : Session} {e : HistoryEntry} {id : EndpointId}
    (h : ¬ e.RoutesTo id) : (s.restore e).1.drafts.get? id = s.drafts.get? id := by
  cases htarget : (s.restore e).2 with
  | textOnly => rw [(frame_of_textOnly htarget).2.2.2]
  | endpoint active =>
    obtain ⟨endpoint, hroute⟩ := route_of_restore htarget
    rw [drafts_restore_of_route hroute]
    refine Drafts.get?_set_of_ne _ ?_ _
    rintro rfl
    rw [← (Catalog.of_findRoute hroute).2.2] at hroute
    exact h (Catalog.findRoute_eq_some_iff.1 hroute)

/-- An operation that writes a draft puts its text in. -/
theorem get?_drafts_of_writes {s : Session} {op : Op} {id : EndpointId} {text : String}
    (h : WritesDraft s id op text) : (s.step op).drafts.get? id = some text := by
  cases h with
  | seed h => exact Drafts.get?_seed_of_none h _
  | edit h text => subst h; exact Drafts.get?_set_self ..
  | reset h => subst h; exact Drafts.get?_set_self ..
  | format h hf =>
    subst h
    rw [step_format, formatDraft_of_ok hf]
    exact Drafts.get?_set_self ..
  | replay he hroute =>
    rw [step_replay, replay_of_get? he, drafts_restore_of_routesTo hroute]
    exact Drafts.get?_set_self ..
  | replayNth he hroute =>
    rw [step_replayNth, replayNth_of_nth? he, drafts_restore_of_routesTo hroute]
    exact Drafts.get?_set_self ..

/-- An operation that does not write a draft leaves it as it was, or absent. -/
theorem get?_drafts_of_not_writes {s : Session} {op : Op} {id : EndpointId} (hop : op ≠ .finish)
    (hnot : ∀ text, ¬ WritesDraft s id op text) :
    (s.step op).drafts.get? id = s.drafts.get? id := by
  have heff := textEffect_step s hop
  generalize s.tie? op = tie at heff
  generalize s.step op = s' at heff ⊢
  -- Each case that can write carries the write; `hnot` says that it went to another endpoint.
  cases heff with
  | select id' h =>
    by_cases hid : id = id'
    · subst hid
      cases hdraft : s.drafts.get? id with
      | none => exact absurd (h hdraft) (hnot _)
      | some text =>
        show (s.drafts.seed id s.modelHint).get? id = some text
        rw [Drafts.get?_seed_of_some hdraft, hdraft]
    · exact Drafts.get?_seed_of_ne _ hid _
  | write text h => exact Drafts.get?_set_of_ne _ (fun hid => hnot text (h id hid.symm)) _
  | restore e h => exact get?_restore_of_not_routesTo fun hroute => hnot _ (h id hroute)
  | keep hdrafts _ _ => rw [hdrafts]

/-- An operation that only changes the texts on show changes no draft. -/
theorem drafts_of_loosened {s : Session} {op : Op} (h : s.tie? op = some .loosened) :
    (s.step op).drafts = s.drafts := by
  have hop : op ≠ .finish := by
    rintro rfl
    cases h
  have heff := textEffect_step s hop
  rw [h] at heff
  generalize hs : s.step op = s' at heff ⊢
  generalize htie : some Tie.loosened = tie at heff
  cases heff with
  | select | write | keep => cases htie
  | restore e _ =>
    cases htarget : (s.restore e).2 with
    | endpoint id => rw [htarget] at htie; cases htie
    | textOnly => exact (frame_of_textOnly htarget).2.2.2

/-! ## Coherence -/

/-- What the operations of a run do to the tie, in their order. -/
def ties (s : Session) : List Op → List Tie
  | [] => []
  | op :: ops => (s.tie? op).toList ++ (s.step op).ties ops

theorem get?_drafts_select (s : Session) (id : EndpointId) :
    (s.select id).drafts.get? id = some (s.select id).editor := by
  show (s.drafts.seed id s.modelHint).get? id = some ((s.drafts.seed id s.modelHint).text id)
  unfold Drafts.text
  rw [Drafts.get?_seed_self]
  rfl

/-- An entry that made an endpoint active is its draft. -/
theorem get?_drafts_restore {s : Session} {e : HistoryEntry} {id : EndpointId}
    (h : (s.restore e).2 = .endpoint id) :
    (s.restore e).1.drafts.get? (s.restore e).1.active = some (s.restore e).1.editor := by
  obtain ⟨endpoint, hroute⟩ := route_of_restore h
  rw [drafts_restore_of_route hroute, (restore_of_route hroute).1, (restore_frame s e).2.2.2.2.2]
  exact Drafts.get?_set_self ..

/-- The active endpoint has a draft, and the editor shows it unless the tie was loosened last. -/
def Coherent (s : Session) (last : Option Tie) : Prop :=
  ∃ text, s.drafts.get? s.active = some text ∧ (last ≠ some .loosened → s.editor = text)

theorem Coherent.step {s : Session} {last : Option Tie} {op : Op} (h : Coherent s last)
    (hop : op ≠ .finish) : Coherent (s.step op) ((s.tie? op).or last) := by
  obtain ⟨text, hdraft, heditor⟩ := h
  have heff := textEffect_step s hop
  generalize s.tie? op = tie at heff ⊢
  generalize s.step op = s' at heff ⊢
  cases heff with
  | select id _ => exact ⟨_, get?_drafts_select s id, fun _ => rfl⟩
  | write text' _ => exact ⟨text', Drafts.get?_set_self .., fun _ => rfl⟩
  | restore e _ =>
    cases htarget : (s.restore e).2 with
    | endpoint id => exact ⟨_, get?_drafts_restore htarget, fun _ => rfl⟩
    | textOnly =>
      obtain ⟨hactive, -, -, hdrafts⟩ := frame_of_textOnly htarget
      exact ⟨text, by rwa [hdrafts, hactive], fun hlast => absurd rfl hlast⟩
  | keep hdrafts hactive heditor' =>
    exact ⟨text, by rwa [hdrafts, hactive], fun hlast => heditor'.trans (heditor hlast)⟩

theorem Coherent.run {s : Session} {last : Option Tie} {ops : List Op} (h : Coherent s last)
    (hops : .finish ∉ ops) : Coherent (s.run ops) ((s.ties ops).getLast?.or last) := by
  induction ops generalizing s last with
  | nil => exact h
  | cons op ops ih =>
    rw [List.mem_cons, not_or] at hops
    have hrun := ih (h.step fun hop => hops.1 hop.symm) hops.2
    rw [ties, run_cons, List.getLast?_append, Option.or_assoc]
    cases htie : s.tie? op <;> simpa [htie] using hrun

theorem coherent_start (baseUrl hint : String) (rule : ImageRule) :
    Coherent (start baseUrl hint rule) none :=
  ⟨_, get?_drafts_select _ .health, fun _ => rfl⟩

/-! ## Drafts along a run -/

/-- **Drafts are isolated and the editor is coherent.** For every session, and for every run of a new
session without an end. -/
theorem drafts_isolated :
    (∀ (s : Session) (op : Op) (id : EndpointId), op ≠ .finish →
      (∀ text, WritesDraft s id op text → (s.step op).drafts.get? id = some text) ∧
      ((∀ text, ¬ WritesDraft s id op text) →
        (s.step op).drafts.get? id = s.drafts.get? id)) ∧
    (∀ (baseUrl hint : String) (rule : ImageRule) (s : Session) (ops : List Op),
      s = start baseUrl hint rule → .finish ∉ ops →
        ∃ text, (s.run ops).drafts.get? (s.run ops).active = some text ∧
          ((s.ties ops).getLast? ≠ some .loosened → (s.run ops).editor = text)) ∧
    ∀ (s : Session) (op : Op), s.tie? op = some .loosened → (s.step op).drafts = s.drafts := by
  refine ⟨fun s op id hop => ⟨fun text h => ?_, fun h => ?_⟩, ?_, fun s op => ?_⟩
  · exact get?_drafts_of_writes h
  · exact get?_drafts_of_not_writes hop h
  · rintro baseUrl hint rule s ops rfl hops
    have h := (coherent_start baseUrl hint rule).run hops
    rwa [Option.or_none] at h
  · exact drafts_of_loosened

/-- A scan whose path was changed to one that no endpoint has. -/
def scanElsewhere : List Op :=
  [.select .modelsScan, .setPath "/scan", .edit "[]", .issue,
    .complete ⟨1, PendingSend.answered { scan "[]" with path := "/scan" }
      (fun _ => .error .timedOut) firstStamp⟩]

/-- Replaying it changes no draft, and the next edit ties the editor to the draft again. -/
theorem drafts_isolated_elsewhere :
    ((((start "http://h" "m" .heuristic).run scanElsewhere).step (.replayNth 0)).drafts =
      ((start "http://h" "m" .heuristic).run scanElsewhere).drafts) ∧
    (((start "http://h" "m" .heuristic).run scanElsewhere).step (.edit "[1]")).drafts.get?
        .modelsScan = some "[1]" ∧
    (((start "http://h" "m" .heuristic).run scanElsewhere).step (.edit "[1]")).drafts.get?
        .health = some "" ∧
    ∃ text, ((start "http://h" "m" .heuristic).run
        (scanElsewhere ++ [.replayNth 0, .edit "[1]"])).drafts.get? .modelsScan = some text ∧
      ((start "http://h" "m" .heuristic).run
        (scanElsewhere ++ [.replayNth 0, .edit "[1]"])).editor = text := by
  obtain ⟨hwrites, hcoherent, hloosened⟩ := drafts_isolated
  refine ⟨hloosened _ _ rfl, ?_, ?_, ?_⟩
  · exact (hwrites _ _ _ (by simp)).1 "[1]" (.edit rfl _)
  · refine (hwrites _ _ _ (by simp)).2 fun text h => ?_
    cases h with
    | edit hactive => exact absurd hactive (by decide)
  · obtain ⟨text, hdraft, heditor⟩ := hcoherent "http://h" "m" .heuristic _
      (scanElsewhere ++ [.replayNth 0, .edit "[1]"]) rfl (by simp [scanElsewhere])
    exact ⟨text, hdraft, heditor (by decide)⟩

end Session

end ApiConsole
