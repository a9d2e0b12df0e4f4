import ApiConsole.Proofs.Json.Token
import ApiConsole.Request
import Mathlib.Tactic.Common

/-!
# Checked requests

The check of a request keeps its method and its URL. What it lets through can be sent
(`Request.Sendable`), and a request that can be sent passes the check unchanged, so that a second
check changes nothing (`prepare_idem`).
-/
namespace ApiConsole

namespace Request

/-- A request that can be sent: a body is JSON that is not blank, and the method carries one. -/
structure Sendable (r : Request) : Prop where
  carries : ∀ body, r.body = some body → r.method.carriesBody = true
  notBlank : ∀ body, r.body = some body → Text.isBlankString body = false
  json : ∀ body, r.body = some body → ∃ v, Json.parse body = .ok v

theorem Sendable.body_eq_none {r : Request} (h : r.Sendable) (hm : r.method = .get) :
    r.body = none := by
  rw [Option.eq_none_iff_forall_ne_some]
  intro body hb
  have := h.carries body hb
  rw [hm] at this
  exact absurd this (by decide)

theorem sentBody_eq_some_iff {r : Request} {body : String} :
    r.sentBody = some body ↔
      r.body = some body ∧ r.method.carriesBody = true ∧ Text.isBlankString body = false := by
  simp [sentBody, Option.filter_eq_some_iff]

theorem Sendable.sentBody {r : Request} (h : r.Sendable) : r.sentBody = r.body := by
  ext body
  rw [sentBody_eq_some_iff]
  constructor
  · exact fun ⟨hb, _⟩ => hb
  · exact fun hb => ⟨hb, h.carries body hb, h.notBlank body hb⟩

/-! ## The check -/

theorem prepare_eq_error_iff {r : Request} {e : Json.ParseError} :
    r.prepare = .error e ↔ ∃ body, r.sentBody = some body ∧ Json.parse body = .error e := by
  unfold prepare
  cases r.sentBody with
  | none => simp
  | some body => cases h : Json.parse body <;> simp [h]

/-- **What the check lets through.** Only the body may differ, and the result can be sent. -/
theorem prepare_eq_ok_iff {r p : Request} :
    r.prepare = .ok p ↔
      p.method = r.method ∧ p.url = r.url ∧ p.body = r.sentBody ∧ p.Sendable := by
  constructor
  · intro h
    unfold prepare at h
    cases hs : r.sentBody with
    | none =>
      rw [hs] at h
      cases h
      exact ⟨rfl, rfl, rfl, nofun, nofun, nofun⟩
    | some body =>
      obtain ⟨-, hcarries, hblank⟩ := sentBody_eq_some_iff.1 hs
      rw [hs] at h
      cases hv : Json.parse body with
      | error e => simp [hv] at h
      | ok v =>
        simp only [hv, Except.ok.injEq] at h
        subst h
        refine ⟨rfl, rfl, rfl, ?_, ?_, ?_⟩
        · exact fun _ _ => hcarries
        · rintro _ ⟨⟩
          exact hblank
        · rintro _ ⟨⟩
          exact ⟨v, hv⟩
  · rintro ⟨hm, hu, hb, hp⟩
    obtain ⟨method, url, body⟩ := p
    cases hm
    cases hu
    unfold prepare
    rw [← hb]
    cases body with
    | none => rfl
    | some body =>
      obtain ⟨v, hv⟩ := hp.json body rfl
      simp only [hv]

theorem Sendable.prepare {r : Request} (h : r.Sendable) : r.prepare = .ok r :=
  prepare_eq_ok_iff.2 ⟨rfl, rfl, h.sentBody.symm, h⟩

/-- JSON passes the check under a method that carries a body. -/
theorem prepare_json {r : Request} {body : String} {v : Json.Value} (hbody : r.body = some body)
    (hcarries : r.method.carriesBody = true) (hv : Json.parse? body = some v) :
    r.prepare = .ok r := by
  refine Sendable.prepare ⟨fun _ _ => hcarries, ?_, ?_⟩
  · intro b hb
    cases hbody.symm.trans hb
    exact Json.not_blank_of_parse? hv
  · intro b hb
    cases hbody.symm.trans hb
    exact ⟨v, Json.parse?_eq_some_iff.1 hv⟩

/-- A blank body is dropped. -/
theorem prepare_blank {r : Request} (h : ∀ body, r.body = some body → Text.isBlankString body = true) :
    r.prepare = .ok { r with body := none } := by
  have hsent : r.sentBody = none := by
    rw [Option.eq_none_iff_forall_ne_some]
    intro body hb
    obtain ⟨hbody, -, hblank⟩ := sentBody_eq_some_iff.1 hb
    rw [h body hbody] at hblank
    cases hblank
  unfold prepare
  rw [hsent]

theorem sendable_of_prepare {r p : Request} (h : r.prepare = .ok p) : p.Sendable :=
  (prepare_eq_ok_iff.1 h).2.2.2

/-- A second check changes nothing. -/
theorem prepare_idem {r p : Request} (h : r.prepare = .ok p) : p.prepare = .ok p :=
  (sendable_of_prepare h).prepare

/-! ## Composing once more -/

/-- A request that is composed once more, with the body that was sent or with an empty one, passes
the check with the same result. -/
theorem prepare_compose_sent {base path query body : String} {m : Method} {p : Request}
    (h : (composeRequest base m path query body).prepare = .ok p) :
    (composeRequest base m path query (p.body.getD "")).prepare = .ok p := by
  obtain ⟨hm, hu, -, hp⟩ := prepare_eq_ok_iff.1 h
  refine prepare_eq_ok_iff.2 ⟨hm, hu, ?_, hp⟩
  cases hb : p.body with
  | none =>
    symm
    rw [Option.eq_none_iff_forall_ne_some]
    intro sent hs
    obtain ⟨hsent, -, hblank⟩ := sentBody_eq_some_iff.1 hs
    simp only [composeRequest, Option.getD_none, Option.ite_none_right_eq_some,
      Option.some.injEq] at hsent
    rw [← hsent.2] at hblank
    exact absurd hblank (by decide)
  | some sent =>
    symm
    have hcarries : m.carriesBody = true := (congrArg Method.carriesBody hm).symm.trans
      (hp.carries sent hb)
    refine sentBody_eq_some_iff.2 ⟨?_, hcarries, hp.notBlank sent hb⟩
    simp [composeRequest, hcarries]

end Request

end ApiConsole
