import ApiConsole.Proofs.Dispatch
import ApiConsole.Proofs.History

/-!
# Refused operations

Four operations of a session can be refused: issuing a send, formatting the draft, and replaying an
entry by its identity or by its place. Each of them has an exact condition (`beginSend_eq_error_iff`,
`formatDraft_eq_error_iff`, `replay_eq_error_iff`, `replayNth_eq_error_iff`).

Main theorem `refused_iff_unchanged`: these are the conditions; a send that is refused leaves its
message and nothing else, one that is issued takes the next number and clears the message, and the
other three change nothing at all when they are refused.
-/
namespace ApiConsole.Session

/-! ## Issuing -/

/-- The body that a session would send is the text of its editor, unless it is blank or the method
carries none. -/
theorem sentBody_composed_eq_some_iff {s : Session} {body : String} :
    s.composed.sentBody = some body ↔
      s.active.endpoint.method ≠ .get ∧ Text.isBlankString s.editor = false ∧ body = s.editor := by
  rw [Request.sentBody_eq_some_iff]
  simp only [composed, composeRequest, Option.ite_none_right_eq_some, Option.some.injEq,
    Method.carriesBody_iff]
  constructor
  · rintro ⟨⟨hmethod, rfl⟩, -, hblank⟩
    exact ⟨hmethod, hblank, rfl⟩
  · rintro ⟨hmethod, hblank, rfl⟩
    exact ⟨⟨hmethod, rfl⟩, hmethod, hblank⟩

theorem prepare_composed_eq_error_iff {s : Session} {e : Json.ParseError} :
    s.composed.prepare = .error e ↔
      s.active.endpoint.method ≠ .get ∧ Text.isBlankString s.editor = false ∧
        Json.parse s.editor = .error e := by
  rw [Request.prepare_eq_error_iff]
  constructor
  · rintro ⟨body, hbody, hparse⟩
    obtain ⟨hmethod, hblank, rfl⟩ := sentBody_composed_eq_some_iff.1 hbody
    exact ⟨hmethod, hblank, hparse⟩
  · rintro ⟨hmethod, hblank, hparse⟩
    exact ⟨_, sentBody_composed_eq_some_iff.2 ⟨hmethod, hblank, rfl⟩, hparse⟩

/-- A send is refused if its body is neither dropped nor JSON. -/
theorem beginSend_eq_error_iff {s : Session} {fault : SessionFault} :
    s.beginSend.2 = .error fault ↔
      s.active.endpoint.method ≠ .get ∧ Text.isBlankString s.editor = false ∧
        ∃ e, Json.parse s.editor = .error e ∧ fault = .invalidBody e := by
  cases h : s.composed.prepare with
  | error e =>
    obtain ⟨hmethod, hblank, hparse⟩ := prepare_composed_eq_error_iff.1 h
    rw [beginSend_of_prepare_error h]
    constructor
    · rintro ⟨⟩
      exact ⟨hmethod, hblank, e, hparse, rfl⟩
    · rintro ⟨-, -, e', hparse', rfl⟩
      rw [hparse] at hparse'
      cases hparse'
      rfl
  | ok r =>
    rw [beginSend_of_prepare_ok h]
    constructor
    · rintro ⟨⟩
    · rintro ⟨hmethod, hblank, e, hparse, -⟩
      rw [prepare_composed_eq_error_iff.2 ⟨hmethod, hblank, hparse⟩] at h
      cases h

theorem beginSend_of_error {s : Session} {fault : SessionFault} (h : s.beginSend.2 = .error fault) :
    s.beginSend.1 = { s with validationError := some fault.message } := by
  obtain ⟨hmethod, hblank, e, hparse, rfl⟩ := beginSend_eq_error_iff.1 h
  rw [beginSend_of_prepare_error (prepare_composed_eq_error_iff.2 ⟨hmethod, hblank, hparse⟩)]
  rfl

theorem beginSend_of_ok {s : Session} {p : PendingSend} (h : s.beginSend.2 = .ok p) :
    s.beginSend.1 = { s with lastIssued := s.lastIssued + 1, validationError := none } := by
  rw [beginSend_of_prepare_ok (beginSend_eq_ok_iff.1 h).1]

/-- The next number is above all numbers of the sends issued so far. -/
theorem seq_lt_of_issued {s : Session} {ops : List Op} {p q : PendingSend}
    (hp : (s.run ops).beginSend.2 = .ok p) (hq : .issued q ∈ s.trace ops) : q.seq < p.seq := by
  have hlast := lastIssued_run s ops
  have hmem : q.seq ∈ (issuedIn (s.trace ops)).map (·.seq) :=
    List.mem_map_of_mem (List.mem_filterMap.2 ⟨_, hq, rfl⟩)
  rw [seq_issuedIn_trace, List.mem_range'_1] at hmem
  rw [(beginSend_eq_ok_iff.1 hp).2.1]
  omega

/-! ## Formatting and replaying -/

theorem formatJson_eq_error_iff {text : String} {refusal : Refusal} :
    formatJson text = .error refusal ↔
      ∃ e, Json.parse text = .error e ∧ refusal = .invalidBody e := by
  unfold formatJson
  cases Json.parse text with
  | ok v => simp
  | error e => simp [eq_comm]

theorem formatDraft_eq_error_iff {s : Session} {fault : SessionFault} :
    s.formatDraft.2 = .error fault ↔
      ∃ e, Json.parse s.editor = .error e ∧ fault = .refused (.invalidBody e) := by
  cases h : formatJson s.editor with
  | error refusal =>
    obtain ⟨e, hparse, rfl⟩ := formatJson_eq_error_iff.1 h
    simp [formatDraft_of_error h, hparse, eq_comm]
  | ok text =>
    rw [formatDraft_of_ok h]
    constructor
    · rintro ⟨⟩
    · rintro ⟨e, hparse, -⟩
      rw [formatJson_eq_error_iff.2 ⟨e, hparse, rfl⟩] at h
      cases h

theorem formatDraft_of_refused {s : Session} {fault : SessionFault}
    (h : s.formatDraft.2 = .error fault) : s.formatDraft.1 = s := by
  obtain ⟨e, hparse, -⟩ := formatDraft_eq_error_iff.1 h
  rw [formatDraft_of_error (formatJson_eq_error_iff.2 ⟨e, hparse, rfl⟩)]

theorem replay_eq_error_iff {s : Session} {id : String} {fault : SessionFault} :
    (s.replay id).2 = .error fault ↔
      (∀ e ∈ s.history.entries, e.id ≠ id) ∧ fault = .unknownEntry id := by
  rw [← History.get?_eq_none_iff]
  cases h : s.history.get? id with
  | none => simp [replay_of_get?_none h, eq_comm]
  | some e => simp [replay_of_get? h]

theorem replay_of_refused {s : Session} {id : String} {fault : SessionFault}
    (h : (s.replay id).2 = .error fault) : (s.replay id).1 = s := by
  rw [replay_of_get?_none (History.get?_eq_none_iff.2 (replay_eq_error_iff.1 h).1)]

theorem replayNth_eq_error_iff {s : Session} {place : Nat} {fault : SessionFault} :
    (s.replayNth place).2 = .error fault ↔
      s.history.size ≤ place ∧ fault = .unknownEntry s!"#{place}" := by
  rw [← History.nth?_eq_none_iff]
  cases h : s.history.nth? place with
  | none => simp [replayNth_of_nth?_none h, eq_comm]
  | some e => simp [replayNth_of_nth? h]

theorem replayNth_of_refused {s : Session} {place : Nat} {fault : SessionFault}
    (h : (s.replayNth place).2 = .error fault) : (s.replayNth place).1 = s := by
  rw [replayNth_of_nth?_none (History.nth?_eq_none_iff.2 (replayNth_eq_error_iff.1 h).1)]

/-! ## Refusals -/

/-- **Operations fail exactly when they should, and then change nothing**, except that a send that is
refused leaves its message. For all sessions. -/
theorem refused_iff_unchanged :
    (∀ (s : Session) (fault : SessionFault), s.beginSend.2 = .error fault ↔
      s.active.endpoint.method ≠ .get ∧ Text.isBlankString s.editor = false ∧
        ∃ e, Json.parse s.editor = .error e ∧ fault = .invalidBody e) ∧
    (∀ (s : Session) (fault : SessionFault), s.beginSend.2 = .error fault →
      s.beginSend.1 = { s with validationError := some fault.message }) ∧
    (∀ (s : Session) (ops : List Op) (t : Session) (p : PendingSend), t = s.run ops →
      t.beginSend.2 = .ok p →
        t.beginSend.1 = { t with lastIssued := t.lastIssued + 1, validationError := none } ∧
        p.seq = t.lastIssued + 1 ∧ ∀ q, .issued q ∈ s.trace ops → q.seq < p.seq) ∧
    (∀ (s : Session) (fault : SessionFault),
      (s.formatDraft.2 = .error fault ↔
        ∃ e, Json.parse s.editor = .error e ∧ fault = .refused (.invalidBody e)) ∧
      (s.formatDraft.2 = .error fault → s.formatDraft.1 = s)) ∧
    (∀ (s : Session) (id : String) (fault : SessionFault),
      ((s.replay id).2 = .error fault ↔
        (∀ e ∈ s.history.entries, e.id ≠ id) ∧ fault = .unknownEntry id) ∧
      ((s.replay id).2 = .error fault → (s.replay id).1 = s)) ∧
    ∀ (s : Session) (place : Nat) (fault : SessionFault),
      ((s.replayNth place).2 = .error fault ↔
        s.history.size ≤ place ∧ fault = .unknownEntry s!"#{place}") ∧
      ((s.replayNth place).2 = .error fault → (s.replayNth place).1 = s) := by
  refine ⟨fun s fault => beginSend_eq_error_iff, fun s fault => beginSend_of_error, ?_,
    fun s fault => ⟨formatDraft_eq_error_iff, formatDraft_of_refused⟩,
    fun s id fault => ⟨replay_eq_error_iff, replay_of_refused⟩,
    fun s place fault => ⟨replayNth_eq_error_iff, replayNth_of_refused⟩⟩
  rintro s ops _ p rfl hp
  exact ⟨beginSend_of_ok hp, (beginSend_eq_ok_iff.1 hp).2.1, fun q hq => seq_lt_of_issued hp hq⟩

/-- A scan with a list that is not closed is refused, and the next send takes the number behind the
last one. -/
theorem refused_iff_unchanged_scan :
    ((start "http://h" "m" .heuristic).run [.select .modelsScan, .edit "["]).beginSend.1 =
      { (start "http://h" "m" .heuristic).run [.select .modelsScan, .edit "["] with
        validationError :=
          some "invalid JSON body: EOF while parsing a list at line 1 column 1" } ∧
    ((start "http://h" "m" .heuristic).run [.select .modelsScan, .edit "["]).formatDraft.1 =
      (start "http://h" "m" .heuristic).run [.select .modelsScan, .edit "["] ∧
    ((start "http://h" "m" .heuristic).replay "1").1 = start "http://h" "m" .heuristic ∧
    ((start "http://h" "m" .heuristic).replayNth 0).1 = start "http://h" "m" .heuristic ∧
    (scan "[]").seq < PendingSend.seq { scan "[]" with seq := 2 } := by
  obtain ⟨-, hrefused, hissued, hformat, hreplay, hreplayNth⟩ := refused_iff_unchanged
  refine ⟨hrefused _ (.invalidBody ⟨.endInList, 1, 1⟩) rfl,
    (hformat _ (.refused (.invalidBody ⟨.endInList, 1, 1⟩))).2 rfl,
    (hreplay _ "1" _).2 rfl, (hreplayNth _ 0 _).2 rfl, ?_⟩
  exact (hissued (start "http://h" "m" .heuristic) [.select .modelsScan, .edit "[]", .issue] _
    { scan "[]" with seq := 2 } rfl rfl).2.2 (scan "[]") (.head _)

end ApiConsole.Session
