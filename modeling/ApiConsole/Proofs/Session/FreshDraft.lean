import ApiConsole.Proofs.Session.Format

/-!
# Fresh drafts

A draft starts as the indented form of the template of its endpoint. The model hint is any text and
goes into one member of that template; since quoting a text never changes what it is read as, the
draft is read as the template whatever the hint is, and an endpoint with a fresh draft can be sent at
once (`Session.fresh_draft_sendable`).
-/
namespace ApiConsole

open Json

/-! ## Templates -/

namespace Template

theorem readsBack_nat (depth : Nat) {n : Nat} (h : n ≤ greatestWord) : ReadsBack depth (.nat n) :=
  readsBack_int depth ⟨by omega, Int.ofNat_le.2 h⟩

theorem readsBack_fraction (depth : Nat) {num den : Nat}
    (h : (fraction num den).reread? = some (fraction num den)) :
    ReadsBack depth (fraction num den) := ⟨.number depth trivial, h⟩

theorem readsBack_conversation (depth : Nat) (content : String) :
    ReadsBack (depth + 2) (.array [userMessage content]) :=
  readsBack_array (List.forall_mem_singleton.2 (readsBack_ofMembers (by simp)))

end Template

open Template

/-- Each member of a template is read back. -/
theorem readsBack_templateMembers (depth : Nat) (hint : String) (id : EndpointId) :
    ∀ members ∈ id.templateMembers hint, ∀ m ∈ members, ReadsBack (depth + 3) m.2 := by
  have hnat : ∀ n ≤ 18446744073709551615, ReadsBack (depth + 3) (.nat n) :=
    fun n => readsBack_nat _
  have hseed : ReadsBack (depth + 3) (.number (.int (-1))) := readsBack_int _ ⟨by decide, by decide⟩
  have hwarm : ReadsBack (depth + 3) (fraction 7 10) := readsBack_fraction _ rfl
  have hwarmer : ReadsBack (depth + 3) (fraction 8 10) := readsBack_fraction _ rfl
  have hscale : ReadsBack (depth + 3) (fraction 7 1) := readsBack_fraction _ rfl
  have htalk := fun content => readsBack_conversation (depth + 1) content
  have hbatch : ∀ first second, ReadsBack (depth + 3)
      (.array [.array [userMessage first], .array [userMessage second]]) := by
    intro first second
    refine readsBack_array fun v hv => ?_
    obtain rfl | rfl : v = _ ∨ v = _ := by simpa using hv
    · exact readsBack_conversation depth first
    · exact readsBack_conversation depth second
  intro members h
  cases id <;> cases h
  all_goals simp [hnat, hseed, hwarm, hwarmer, hscale, htalk, hbatch, greeting]

/-- A template with its model named. -/
def withModel (hint : String) : Value → Value
  | .object members =>
    .object (members.map fun m =>
      if m.1 = "model" ∨ m.1 = "model_id" then (m.1, .string hint) else m)
  | v => v

/-- The hint is one member of a template, and nothing else of it depends on the hint. -/
theorem template_eq_withModel (id : EndpointId) (hint : String) :
    id.template hint = (id.template "").map (withModel hint) := by
  cases id <;> rfl

theorem parse?_template (id : EndpointId) (hint : String) {v : Value}
    (h : id.template hint = some v) : parse? (id.templateText hint) = some v := by
  obtain ⟨members, hmembers, rfl⟩ := Option.map_eq_some_iff.1 h
  rw [EndpointId.templateText, h]
  exact (readsBack_ofMembers (readsBack_templateMembers 123 hint id members hmembers)).parse?_pretty

/-- Only a draft without a template is empty. -/
theorem templateText_eq_empty_iff (id : EndpointId) (hint : String) :
    id.templateText hint = "" ↔ id.template hint = none := by
  constructor
  · intro h
    rw [Option.eq_none_iff_forall_ne_some]
    intro v hv
    have hread := parse?_template id hint hv
    rw [h] at hread
    cases hread
  · intro h
    rw [EndpointId.templateText, h]

/-- Endpoints with a template take a body. -/
theorem carriesBody_of_template {id : EndpointId} {hint : String} {v : Value}
    (h : id.template hint = some v) : id.endpoint.method.carriesBody = true := by
  cases id <;> first | rfl | cases h

namespace Session

theorem select_editor {s : Session} {id : EndpointId} (h : s.drafts.get? id = none) :
    (s.select id).editor = id.templateText s.modelHint := by
  have hseed := Drafts.get?_seed_of_none h s.modelHint
  show ((s.drafts.seed id s.modelHint).get? id).getD "" = _
  rw [hseed]
  rfl

/-- **A fresh draft can be sent.** It is empty if its endpoint has no template and is read as the
template otherwise; the hint is the model that the template names and changes nothing else. -/
theorem fresh_draft_sendable (id : EndpointId) (hint : String) :
    (id.templateText hint = "" ↔ id.template hint = none) ∧
      (id.template hint ≠ none → parse? (id.templateText hint) = id.template hint) ∧
      id.template hint = (id.template "").map (withModel hint) ∧
      ∀ s : Session, s.drafts.get? id = none → s.modelHint = hint →
        ∃ p, (s.select id).beginSend.2 = .ok p ∧
          (id.template hint = none → p.request.body = none) ∧
          ∀ v, id.template hint = some v → ∃ body, p.request.body = some body ∧ parse? body = some v := by
  refine ⟨templateText_eq_empty_iff id hint, fun h => ?_, template_eq_withModel id hint, ?_⟩
  · obtain ⟨v, hv⟩ := Option.ne_none_iff_exists'.1 h
    rw [hv]
    exact parse?_template id hint hv
  · rintro s hdraft rfl
    have heditor := select_editor hdraft
    cases htemplate : id.template s.modelHint with
    | none =>
      rw [(templateText_eq_empty_iff id s.modelHint).2 htemplate] at heditor
      have hblank : ∀ body, (s.select id).composed.body = some body →
          Text.isBlankString body = true := by
        intro body hbody
        obtain ⟨-, heq⟩ := Option.ite_none_right_eq_some.1 hbody
        rw [← Option.some.inj heq, heditor]
        rfl
      obtain ⟨p, hp, hrequest⟩ := exists_beginSend_of_prepare (Request.prepare_blank hblank)
      exact ⟨p, hp, fun _ => by rw [hrequest], nofun⟩
    | some v =>
      have hread := parse?_template id s.modelHint htemplate
      rw [← heditor] at hread
      obtain ⟨p, hp, hbody⟩ := exists_beginSend_json (s := s.select id)
        (carriesBody_of_template htemplate) hread
      refine ⟨p, hp, nofun, ?_⟩
      rintro _ ⟨⟩
      exact ⟨_, hbody, hread⟩

/-- A hint with a quotation mark, a backslash, a line break and a control character. -/
theorem fresh_draft_sendable_quoted :
    (start "http://h" "a\"b\\c\nd\x07é" .heuristic).drafts.get? .modelSwitch = none ∧
    parse? (EndpointId.modelSwitch.templateText "a\"b\\c\nd\x07é") =
      some (.object [("model_id", .string "a\"b\\c\nd\x07é")]) ∧
    ∃ p body, ((start "http://h" "a\"b\\c\nd\x07é" .heuristic).select .modelSwitch).beginSend.2 = .ok p ∧
      p.request.body = some body ∧
      parse? body = some (.object [("model_id", .string "a\"b\\c\nd\x07é")]) := by
  have hdraft : (start "http://h" "a\"b\\c\nd\x07é" .heuristic).drafts.get? .modelSwitch = none := by
    rfl
  have htemplate : EndpointId.modelSwitch.template "a\"b\\c\nd\x07é" =
      some (.object [("model_id", .string "a\"b\\c\nd\x07é")]) := by rfl
  obtain ⟨-, hread, -, hsend⟩ := fresh_draft_sendable .modelSwitch "a\"b\\c\nd\x07é"
  obtain ⟨p, hp, -, hbody⟩ := hsend _ hdraft rfl
  obtain ⟨body, hbody, hvalue⟩ := hbody _ htemplate
  rw [htemplate] at hread
  exact ⟨hdraft, hread (Option.some_ne_none _), p, body, hp, hbody, hvalue⟩

end Session

end ApiConsole
