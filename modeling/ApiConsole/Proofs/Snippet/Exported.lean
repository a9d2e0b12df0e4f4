import ApiConsole.Display
import ApiConsole.Proofs.Request.Prepare
import ApiConsole.Snippet

/-!
# Requests as they are exported and previewed

A request is checked before it is sent, and its snippets and its preview decide on their own whether
it has a body. Main theorem `exported_as_sent`: they agree with the check.
-/
namespace ApiConsole

open Json Text

/-! ## Bodies -/

theorem parse?_of_sendable {p : Request} (h : p.Sendable) {text : String}
    (hbody : p.body = some text) : ∃ v, parse? text = some v := by
  obtain ⟨v, hv⟩ := h.json text hbody
  unfold parse?
  rw [hv]
  exact ⟨v, rfl⟩

/-- The body of a snippet is the JSON value of the body that is sent. -/
theorem ofDraft_of_prepare {r p : Request} (h : r.prepare = .ok p) :
    SnippetBody.ofDraft r.method (r.body.getD "") =
      p.body.bind fun text => (parse? text).map .json := by
  obtain ⟨-, -, hsent, hsendable⟩ := Request.prepare_eq_ok_iff.1 h
  unfold SnippetBody.ofDraft
  cases hp : p.body with
  | none =>
    have hdropped : (!r.method.carriesBody || isBlankString (r.body.getD "")) = true := by
      rw [hp] at hsent
      cases hr : r.body with
      | none => exact Bool.or_eq_true_iff.2 (.inr rfl)
      | some body =>
        rw [Option.getD_some, Bool.or_eq_true, Bool.not_eq_true']
        by_contra hkept
        simp only [not_or, Bool.not_eq_false, Bool.not_eq_true] at hkept
        have hsome := Request.sentBody_eq_some_iff.2 ⟨hr, hkept⟩
        rw [← hsent] at hsome
        cases hsome
    rw [if_pos hdropped]
    rfl
  | some text =>
    rw [hp] at hsent
    obtain ⟨hbody, hcarries, hblank⟩ := Request.sentBody_eq_some_iff.1 hsent.symm
    obtain ⟨v, hv⟩ := parse?_of_sendable hsendable hp
    rw [hbody, Option.getD_some, if_neg (by simp [hcarries, hblank]), hv, Option.bind_some, hv]
    rfl

/-- A snippet has a body if and only if one is sent. -/
theorem ofDraft_eq_none_iff {r p : Request} (h : r.prepare = .ok p) :
    SnippetBody.ofDraft r.method (r.body.getD "") = none ↔ p.body = none := by
  rw [ofDraft_of_prepare h]
  cases hp : p.body with
  | none => simp
  | some text =>
    obtain ⟨v, hv⟩ := parse?_of_sendable (Request.sendable_of_prepare h) hp
    simp [hv]

namespace Snippet

/-! ## Snippets -/

/-- A snippet depends on its draft only through the body that the draft gives. -/
theorem generate_congr {method : Method} {draft draft' : String}
    (h : SnippetBody.ofDraft method draft = SnippetBody.ofDraft method draft')
    (target : SnippetTarget) (url : String) :
    generate target method url draft = generate target method url draft' := by
  unfold generate
  rw [h]

theorem length_curlCode_lt (method : Method) (url : String) (b : SnippetBody) :
    (curlCode method url none).length < (curlCode method url (some b)).length := by
  have hcode : curlCode method url (some b) = curlCode method url none ++
      " \\\n  -H 'Content-Type: application/json' \\\n  -d " ++ shellQuote b.text := rfl
  have hmore : 0 < " \\\n  -H 'Content-Type: application/json' \\\n  -d ".length := by decide
  rw [hcode, String.length_append, String.length_append]
  omega

theorem length_pythonCode_lt (method : Method) (url : String) (b : SnippetBody) :
    (pythonCode method url none).length < (pythonCode method url (some b)).length := by
  obtain ⟨call, name, opening, quoted, comma, ending, hcode⟩ :
      ∃ call name opening quoted comma ending, ∀ body, pythonCode method url body =
        pythonPreamble body ++ call ++ name ++ opening ++ quoted ++ comma ++
          pythonArguments body ++ ending := ⟨_, _, _, _, _, _, fun _ => rfl⟩
  have hpreamble : (pythonPreamble none).length = 0 := rfl
  have hnone : (pythonArguments none).length = 0 := rfl
  have hmore : 0 < (pythonArguments (some b)).length := by
    cases b <;> (dsimp only [pythonArguments]; decide)
  rw [hcode, hcode]
  simp only [String.length_append]
  omega

theorem length_fetchCode_lt (method : Method) (url : String) (b : SnippetBody) :
    (fetchCode method url none).length < (fetchCode method url (some b)).length := by
  obtain ⟨front, ending, hcode⟩ : ∃ front ending, ∀ body,
      fetchCode method url body = front ++ fetchProperties body ++ ending :=
    ⟨_, _, fun _ => rfl⟩
  obtain ⟨rest, hproperties⟩ : ∃ rest, fetchProperties (some b) =
      "  headers: \x7b\n    'Content-Type': 'application/json',\n  \x7d,\n" ++ rest := ⟨_, rfl⟩
  have hnone : (fetchProperties none).length = 0 := rfl
  have hmore : 0 < "  headers: \x7b\n    'Content-Type': 'application/json',\n  \x7d,\n".length := by
    decide
  rw [hcode, hcode]
  simp only [hproperties, String.length_append]
  omega

/-- **A snippet is that of an empty draft if and only if its draft gives no body.** -/
theorem generate_eq_empty_iff (target : SnippetTarget) (method : Method) (url draft : String) :
    generate target method url draft = generate target method url "" ↔
      SnippetBody.ofDraft method draft = none := by
  have hempty : SnippetBody.ofDraft method "" = none := by cases method <;> rfl
  constructor
  · intro h
    cases hbody : SnippetBody.ofDraft method draft with
    | none => rfl
    | some b =>
      -- A body makes the code of each target longer.
      have hlength := congrArg (·.code.length) h
      cases target with
      | curl =>
        simp only [generate, hbody, hempty] at hlength
        exact absurd hlength (length_curlCode_lt method url b).ne'
      | python =>
        simp only [generate, hbody, hempty] at hlength
        exact absurd hlength (length_pythonCode_lt method url b).ne'
      | fetch =>
        simp only [generate, hbody, hempty] at hlength
        exact absurd hlength (length_fetchCode_lt method url b).ne'
  · intro h
    exact generate_congr (h.trans hempty.symm) target url

/-- The snippet of a request is that of the request that is sent. -/
theorem ofRequest_of_prepare {r p : Request} (h : r.prepare = .ok p) (target : SnippetTarget) :
    ofRequest target r = ofRequest target p := by
  obtain ⟨hmethod, hurl, -, -⟩ := Request.prepare_eq_ok_iff.1 h
  have hbody : SnippetBody.ofDraft r.method (r.body.getD "") =
      SnippetBody.ofDraft r.method (p.body.getD "") := by
    rw [ofDraft_of_prepare h, ← hmethod, ofDraft_of_prepare (Request.prepare_idem h)]
  rw [ofRequest, ofRequest, generate_congr hbody, hmethod, hurl]

end Snippet

namespace Display

/-! ## Previews -/

/-- A preview shows the body that is sent. -/
theorem bodyPreview_eq (r : Request) :
    bodyPreview r =
      if r.method.carriesBody then (r.sentBody.map ("\n\n" ++ ·)).getD ""
      else s!"\n(no body: {r.method.name})" := by
  unfold bodyPreview Request.sentBody
  split
  · next hcarries =>
    simp only [hcarries, Bool.true_and]
    cases r.body.filter (!isBlankString ·) <;> rfl
  · rfl

theorem requestPreview_of_prepare {r p : Request} (h : r.prepare = .ok p) (e : Endpoint)
    (warnings : List Placeholder) : requestPreview e r warnings = requestPreview e p warnings := by
  obtain ⟨hmethod, hurl, hsent, hsendable⟩ := Request.prepare_eq_ok_iff.1 h
  rw [requestPreview, requestPreview, bodyPreview_eq, bodyPreview_eq, hmethod, hurl, ← hsent,
    hsendable.sentBody]

end Display

/-- **What is exported and previewed is what is sent.** For a request that passes the check, each
snippet and the preview are those of the request that is sent, and a snippet is that of an empty
draft if and only if no body is sent. -/
theorem exported_as_sent {r p : Request} (h : r.prepare = .ok p) :
    (∀ target, Snippet.ofRequest target r = Snippet.ofRequest target p) ∧
      (∀ e warnings, Display.requestPreview e r warnings = Display.requestPreview e p warnings) ∧
      ∀ target, p.body = none ↔
        Snippet.ofRequest target r = Snippet.generate target r.method r.url "" := by
  refine ⟨Snippet.ofRequest_of_prepare h, Display.requestPreview_of_prepare h, fun target => ?_⟩
  rw [Snippet.ofRequest, Snippet.generate_eq_empty_iff, ofDraft_eq_none_iff h]

/-- A request whose body is blank, but not empty. -/
def blankRequest : Request := ⟨.delete, "http://h/x", some " \u00a0\n"⟩

theorem exported_as_sent_blank :
    blankRequest.prepare = .ok { blankRequest with body := none } ∧
      ∀ target, Snippet.ofRequest target blankRequest =
        Snippet.generate target .delete "http://h/x" "" := by
  have hprepare : blankRequest.prepare = .ok { blankRequest with body := none } := by
    decide +kernel
  exact ⟨hprepare, fun target => ((exported_as_sent hprepare).2.2 target).1 rfl⟩

end ApiConsole
