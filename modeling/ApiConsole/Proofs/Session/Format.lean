import ApiConsole.Proofs.Json.RoundTrip
import ApiConsole.Proofs.Request.Prepare
import ApiConsole.Proofs.Session.Run

/-!
# Formatting a draft

Formatting writes the value of a JSON text in indented form. What that form is read as is known for
every value (`Json.parse?_pretty`), so it is known when a second formatting changes nothing and when
the value is kept: exactly if each binary fraction of the value is what its own text is read as
(`Session.format_stable_iff`). Not every fraction is: the decimal reader rounds more than once
(`Session.format_drifts`).
-/
namespace ApiConsole

open Json

theorem formatJson_eq_ok_iff {text formatted : String} :
    formatJson text = .ok formatted ↔ ∃ v, parse? text = some v ∧ formatted = v.pretty := by
  unfold formatJson
  constructor
  · intro h
    cases hv : parse text with
    | error e => rw [hv] at h; cases h
    | ok v =>
      rw [hv] at h
      cases h
      exact ⟨v, parse?_eq_some_iff.2 hv, rfl⟩
  · rintro ⟨v, hv, rfl⟩
    rw [parse?_eq_some_iff.1 hv]

/-- A formatted text that keeps its value is formatted to itself. -/
theorem formatJson_pretty {text : String} {v : Value} (hv : parse? text = some v)
    (hkeep : parse? v.pretty = parse? text) : formatJson v.pretty = .ok v.pretty :=
  formatJson_eq_ok_iff.2 ⟨v, hkeep.trans hv, rfl⟩

namespace Session

/-- A draft that is JSON is sent as it is by a method that carries a body. -/
theorem exists_beginSend_json {s : Session} {v : Value}
    (hcarries : s.active.endpoint.method.carriesBody = true) (hv : parse? s.editor = some v) :
    ∃ p, s.beginSend.2 = .ok p ∧ p.request.body = some s.editor := by
  have hbody : s.composed.body = some s.editor := if_pos hcarries
  obtain ⟨p, hp, hrequest⟩ := exists_beginSend_of_prepare (Request.prepare_json hbody hcarries hv)
  exact ⟨p, hp, by rw [hrequest, hbody]⟩

theorem editDraft_editDraft (s : Session) (text : String) :
    (s.editDraft text).editDraft text = s.editDraft text := by
  have hset : (s.drafts.set s.active text).set s.active text = s.drafts.set s.active text := by
    unfold Drafts.set
    congr 1
    funext e
    by_cases he : e = s.active
    · simp [he]
    · simp [he]
  unfold editDraft
  simp only [hset]

/-- **When formatting is stable.** -/
theorem format_stable_iff {text formatted : String} (h : formatJson text = .ok formatted) :
    ∃ v, parse? text = some v ∧ parse? formatted = v.reread? ∧
      ((formatJson formatted = .ok formatted ∧ parse? formatted = parse? text) ↔ v.Readable) ∧
      ∀ s : Session, s.editor = text → v.Readable →
        ∃ s', s.formatDraft = (s', .ok formatted) ∧ s'.editor = formatted ∧
          s'.formatDraft = (s', .ok formatted) ∧
          (s.active.endpoint.method.carriesBody = true →
            ∃ p p', s.beginSend.2 = .ok p ∧ s'.beginSend.2 = .ok p' ∧
              p.request.body = some text ∧ p'.request.body = some formatted ∧
              parse? formatted = parse? text) := by
  obtain ⟨v, hv, rfl⟩ := formatJson_eq_ok_iff.1 h
  have hformed := formed_of_parse? hv
  have hread := parse?_pretty hformed
  have hkeep : parse? v.pretty = parse? text ↔ v.Readable := by
    rw [hread, hv]
    exact reread?_eq_self_iff hformed
  refine ⟨v, hv, hread, ?_, ?_⟩
  · rw [← hkeep]
    exact ⟨And.right, fun hk => ⟨formatJson_pretty hv hk, hk⟩⟩
  · rintro s rfl hreadable
    have hk := hkeep.2 hreadable
    have heditor : (s.editDraft v.pretty).editor = v.pretty := rfl
    refine ⟨s.editDraft v.pretty, formatDraft_of_ok h, heditor, ?_, fun hcarries => ?_⟩
    · have hagain : formatJson (s.editDraft v.pretty).editor = .ok v.pretty := by
        rw [heditor]
        exact formatJson_pretty hv hk
      rw [formatDraft_of_ok hagain, editDraft_editDraft]
    · have hv' : parse? (s.editDraft v.pretty).editor = some v := by
        rw [heditor]
        exact hk.trans hv
      obtain ⟨p, hp, hbody⟩ := exists_beginSend_json hcarries hv
      obtain ⟨p', hp', hbody'⟩ :=
        exists_beginSend_json (s := s.editDraft v.pretty) hcarries hv'
      exact ⟨p, p', hp, hp', hbody, hbody', hk⟩

/-- A draft with a fraction and an integer, which both come back. -/
theorem format_stable_iff_tenth :
    let s := ((start "http://localhost:6930" "llama-7b" .heuristic).select .modelsScan).editDraft
      "[0.1, 7]"
    formatJson "[0.1, 7]" = .ok "[\n  0.1,\n  7\n]" ∧
    ∃ s' p', s.formatDraft = (s', .ok "[\n  0.1,\n  7\n]") ∧
      s'.formatDraft = (s', .ok "[\n  0.1,\n  7\n]") ∧ s'.beginSend.2 = .ok p' ∧
      p'.request.body = some "[\n  0.1,\n  7\n]" ∧
      parse? "[\n  0.1,\n  7\n]" = parse? "[0.1, 7]" := by
  intro s
  have hformat : formatJson "[0.1, 7]" = .ok "[\n  0.1,\n  7\n]" := by decide +kernel
  have hkeep : parse? "[\n  0.1,\n  7\n]" = parse? "[0.1, 7]" := by rfl
  have hagain : formatJson "[\n  0.1,\n  7\n]" = .ok "[\n  0.1,\n  7\n]" := by decide +kernel
  obtain ⟨v, -, -, hstable, hsession⟩ := format_stable_iff hformat
  obtain ⟨s', hs', -, hs'', hsend⟩ := hsession s rfl (hstable.1 ⟨hagain, hkeep⟩)
  obtain ⟨-, p', -, hp', -, hbody', -⟩ := hsend (by rfl)
  exact ⟨hformat, s', p', hs', hs'', hp', hbody', hkeep⟩

/-- **A second formatting may change the text.** What is written for `1e-24` is the text of a
neighbour of the number that was meant, and reading that text gives the other one back. -/
theorem format_drifts :
    formatJson "1e-24" = .ok "1.0000000000000001e-24" ∧
    formatJson "1.0000000000000001e-24" = .ok "1e-24" ∧
    parse? "1.0000000000000001e-24" ≠ parse? "1e-24" := by
  have hfirst : formatJson "1e-24" = .ok "1.0000000000000001e-24" := by decide +kernel
  have hsecond : formatJson "1.0000000000000001e-24" = .ok "1e-24" := by decide +kernel
  refine ⟨hfirst, hsecond, fun heq => ?_⟩
  obtain ⟨v, hv, hpretty⟩ := formatJson_eq_ok_iff.1 hfirst
  obtain ⟨w, hw, hpretty'⟩ := formatJson_eq_ok_iff.1 hsecond
  rw [hw, hv] at heq
  cases heq
  rw [← hpretty] at hpretty'
  exact absurd hpretty' (by decide)

end Session

end ApiConsole
