import ApiConsole.Proofs.Response.Images
import ApiConsole.Proofs.Session.Address

/-!
# Where images are looked for

An image that a response names by a path on the server is looked for under the same base as requests
are sent to, but its URL is not put together by the same function. Both drop the slashes at the end of
the base; only the composing of requests drops the blanks at its ends as well. Main theorem
`image_addressed_iff`: the two URLs of a path are the same exactly if the base has no such blanks.
-/
namespace ApiConsole

open Text

/-- A name that is a path on the server: it begins with one slash and does not end in a blank. -/
structure IsServerPath (name : String) : Prop where
  slash : ∃ rest, name.toList = '/' :: rest ∧ rest.head? ≠ some '/'
  last : ∀ c ∈ name.toList.getLast?, isBlank c = false

namespace IsServerPath

variable {name : String} (h : IsServerPath name)

include h

theorem normalizePath_eq : normalizePath name = name := by
  obtain ⟨rest, hname, hrest⟩ := h.slash
  have htrim : Trimmed name.toList := by
    refine ⟨fun c hc => ?_, h.last⟩
    rw [hname] at hc
    cases hc
    decide
  have hkeep : rest.dropWhile (· == '/') = rest := by
    refine dropWhile_eq_self fun c hc => ?_
    rw [beq_eq_false_iff_ne]
    rintro rfl
    exact hrest hc
  rw [normalizePath, htrim.trim_eq, hname, List.dropWhile_cons_of_pos rfl, hkeep, ← hname,
    String.ofList_toList]

/-- The URL of a request for such a path without a query. -/
theorem composeUrl_eq (base : String) : composeUrl base name "" = normalizeBase base ++ name := by
  rw [ApiConsole.composeUrl_eq, h.normalizePath_eq, normalizeQuery_empty]
  exact String.append_empty

/-- Such a path goes behind the base without its slashes at the end. -/
theorem resolve_eq {rule : ImageRule} (hdata : Images.dataType? rule name.toList = none)
    (base : String) :
    Images.resolve rule base name =
      some (String.ofList (dropEndWhile (· == '/') base.toList) ++ name) := by
  obtain ⟨rest, hname, -⟩ := h.slash
  have hrelative : Images.isAbsolute ('/' :: rest) = false := rfl
  rw [hname] at hdata
  simp only [Images.resolve, hname, hdata, hrelative, List.isEmpty_cons, Bool.false_eq_true, if_false]
  rw [Option.some.injEq, ← String.toList_inj, Images.onServer, if_pos (by rfl), String.toList_append,
    String.toList_ofList, String.toList_ofList, hname]

/-- **An image is looked for where a request for its path goes** exactly if the base is trimmed. -/
theorem resolve_eq_composeUrl_iff {rule : ImageRule}
    (hdata : Images.dataType? rule name.toList = none) (base : String) :
    Images.resolve rule base name = some (composeUrl base name "") ↔ Trimmed base.toList := by
  have hblank : ∀ c, isBlank c = true → (c == '/') = false := by
    intro c hc
    rw [beq_eq_false_iff_ne]
    rintro rfl
    exact absurd hc (by decide)
  rw [h.resolve_eq hdata, h.composeUrl_eq, Option.some.injEq, String.append_left_inj,
    ← dropEndWhile_trim_eq_iff hblank, ← String.toList_inj, toList_normalizeBase, String.toList_ofList]

end IsServerPath

namespace Session

/-- The pane of a response that names one image shows that image. -/
theorem imageUrls_of_names {s : Session} {body : Json.Value} {name : String}
    (hbody : s.response.bind (·.json) = some body) (hnames : Images.names body = [name]) :
    s.imageUrls = (Images.resolve s.imageRule s.baseUrl name).toList := by
  unfold imageUrls
  rw [hbody]
  change (Images.names body).filterMap _ = _
  rw [hnames]
  cases hresolve : Images.resolve s.imageRule s.baseUrl name with
  | none => simp [hresolve]
  | some url => simp [hresolve]

/-- The URL that a session sends to for such a path without a query. -/
theorem url_composed_setPath {name : String} (h : IsServerPath name) (s : Session) :
    ((s.setPath name).setQuery "").composed.url = composeUrl s.baseUrl name "" := by
  rw [url_composed]
  simp only [setQuery, setPath, h.normalizePath_eq, normalizeQuery_empty]

end Session

/-- **Images and requests are addressed alike exactly under bases without blanks at their ends.** For
every path that the rule in use does not take for image data, every base and every session over it. -/
theorem image_addressed_iff {name : String} (h : IsServerPath name) {rule : ImageRule}
    (hdata : Images.dataType? rule name.toList = none) (base : String) :
    (Images.resolve rule base name = some (composeUrl base name "") ↔ Trimmed base.toList) ∧
      Images.resolve rule base name =
        some (String.ofList (dropEndWhile (· == '/') base.toList) ++ name) ∧
      ∀ s : Session, s.baseUrl = base →
        ((s.setPath name).setQuery "").composed.url = composeUrl base name "" ∧
        ∀ body, s.imageRule = rule → s.response.bind (·.json) = some body →
          Images.names body = [name] →
          (s.imageUrls = [((s.setPath name).setQuery "").composed.url] ↔ Trimmed base.toList) := by
  refine ⟨h.resolve_eq_composeUrl_iff hdata base, h.resolve_eq hdata base, ?_⟩
  rintro s rfl
  refine ⟨s.url_composed_setPath h, ?_⟩
  rintro body rfl hbody hnames
  rw [Session.imageUrls_of_names hbody hnames, s.url_composed_setPath h,
    ← h.resolve_eq_composeUrl_iff hdata]
  cases Images.resolve s.imageRule s.baseUrl name <;> simp

/-- Slashes at the end of a base do no harm. -/
theorem image_addressed_iff_slashes :
    checkBaseUrl "http://localhost:6930//" = .ok () ∧
      composeUrl "http://localhost:6930//" "/a.png" "" = "http://localhost:6930/a.png" ∧
      Images.resolve .strict "http://localhost:6930//" "/a.png" =
        some (composeUrl "http://localhost:6930//" "/a.png" "") := by
  have hpath : IsServerPath "/a.png" :=
    ⟨⟨"a.png".toList, by decide, by decide⟩, by rintro c ⟨⟩; rfl⟩
  have hdata : Images.dataType? .strict "/a.png".toList = none := by decide
  have htrimmed : Trimmed "http://localhost:6930//".toList :=
    ⟨by rintro c ⟨⟩; rfl, by rintro c ⟨⟩; rfl⟩
  obtain ⟨hiff, -⟩ := image_addressed_iff hpath hdata "http://localhost:6930//"
  exact ⟨by decide +kernel, by decide +kernel, hiff.2 htrimmed⟩

/-- **Under a base that passes the check, an image may be looked for under a URL that cannot be read,
while requests go to the server.** -/
theorem image_misaddressed :
    checkBaseUrl "http://localhost:6930 " = .ok () ∧
      (∀ rule, Images.dataType? rule "/a.png".toList = none ∧
        Images.resolve rule "http://localhost:6930 " "/a.png" = some "http://localhost:6930 /a.png") ∧
      composeUrl "http://localhost:6930 " "/a.png" "" = "http://localhost:6930/a.png" ∧
      Url.parse "http://localhost:6930 /a.png" = .error .invalidPort ∧
      (Url.parse "http://localhost:6930/a.png").isOk = true := by
  refine ⟨by decide +kernel, fun rule => ?_, by decide +kernel, by decide +kernel, by decide +kernel⟩
  cases rule <;> decide +kernel

end ApiConsole
