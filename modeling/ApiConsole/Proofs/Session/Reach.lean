import ApiConsole.Proofs.Request.Base
import ApiConsole.Proofs.Session.Address

/-!
# Requests under a checked base

A base URL is checked by reading it on its own, and requests are composed under it. Main theorem
`base_reached_iff`: every request under a checked base can be sent and goes to the server of the base,
unless the base hides a control behind its server. The reader of URLs drops a control at the end of a
text; composing puts a path behind it, and then it stands inside the server part, which is refused.
-/
namespace ApiConsole

open Text Url

/-! ## Bases that hide a control -/

/-- What stands behind the scheme and the slashes of a URL. -/
def behindScheme (text : String) : List Char :=
  match cutScheme? (cleaned text.toList) with
  | some (_, rest) => rest.dropWhile isSlash
  | none => []

/-- The server part runs to the end of the base, and what composing leaves of the base ends in a
control. -/
structure HidesControl (base : String) : Prop where
  runsOut : NoMark (behindScheme base)
  control : ∃ c ∈ (normalizeBase base).toList.getLast?, c.toNat ≤ 0x20

theorem behindScheme_split {text scheme : String} {front sv after : List Char}
    (h : Split scheme (cleaned text.toList) front sv after) : behindScheme text = sv ++ after := by
  obtain ⟨rest, hcut, hrest⟩ := h.exists_cut
  unfold behindScheme
  rw [hcut]
  exact hrest

/-- The server part runs to the end if nothing follows it. -/
theorem noMark_behindScheme_iff {text scheme : String} {front sv after : List Char}
    (h : Split scheme (cleaned text.toList) front sv after) :
    NoMark (behindScheme text) ↔ after = [] := by
  rw [behindScheme_split h]
  constructor
  · intro hmark
    cases after with
    | nil => rfl
    | cons c after =>
      have hends := h.atMark c rfl
      rw [hmark c (by simp)] at hends
      cases hends
  · rintro rfl
    rw [List.append_nil]
    exact h.noMark

/-! ## The server of a composed URL -/

/-- Two ways to cut a text, if the end of one first part is not in the other second part. -/
theorem exists_of_append_eq {s extra t after : List Char} (h : s ++ extra = t ++ after)
    (hlast : ∀ c ∈ t.getLast?, c ∉ extra) : ∃ more, s = t ++ more ∧ after = more ++ extra := by
  rcases List.append_eq_append_iff.1 h with ⟨between, ht, hextra⟩ | ⟨more, hs, hafter⟩
  · rcases List.eq_nil_or_concat' between with rfl | ⟨front, c, rfl⟩
    · exact ⟨[], by simpa using ht.symm, by simpa using hextra.symm⟩
    · have hc : c ∈ t.getLast? := by
        rw [ht]
        simp
      exact absurd (by rw [hextra]; simp) (hlast c hc)
  · exact ⟨more, hs, hafter⟩

section

variable {base scheme : String} {front sv after : List Char} {r : Authority × List Char}

/-- The server part of a base does not end in a slash or blank. -/
theorem last_of_server (h : Split scheme (cleaned base.toList) front sv after)
    (hserver : server scheme true sv = .ok r) {c : Char} (hc : c ∈ (front ++ sv).getLast?) :
    ¬(c = '/' ∨ isBlank c = true) := by
  rw [List.getLast?_append_of_ne_nil _ h.ne_nil] at hc
  rintro (rfl | hblank)
  · have hmark := h.noMark '/' (List.mem_of_mem_getLast? hc)
    exact absurd hmark (by decide)
  · obtain ⟨fault, hfault⟩ := server_refuses scheme (.inr hblank) hc h.noMark atMark_nil
    rw [List.append_nil, hserver] at hfault
    cases hfault

/-- What is left of a base that may lack slashes and blanks at the end has all of its server part. -/
theorem exists_kept (h : Split scheme (cleaned base.toList) front sv after)
    (hserver : server scheme true sv = .ok r) {extra : List Char}
    (hextra : ∀ c ∈ extra, c = '/' ∨ isBlank c = true)
    (hbase : cleaned base.toList = keptBase base ++ extra) :
    ∃ more, keptBase base = front ++ sv ++ more ∧ after = more ++ extra := by
  rw [h.text_eq, ← List.append_assoc] at hbase
  exact exists_of_append_eq hbase.symm
    fun c hc hmem => last_of_server h hserver hc (hextra c hmem)

/-- A composed URL has the front and the server part of the base, if the base hides no control. -/
theorem split_compose (h : Split scheme (cleaned base.toList) front sv after)
    (hserver : server scheme true sv = .ok r) (hhides : ¬HidesControl base) (path query : String) :
    ∃ after', Split scheme (cleaned (composeUrl base path query).toList) front sv after' := by
  obtain ⟨tail, htail⟩ := cleaned_compose base path query
  obtain ⟨rest, hcut, -⟩ := h.exists_cut
  have hslash : AtMark ('/' :: tail) := by
    rintro c ⟨⟩
    decide
  rcases cleaned_base (isAlpha_of_cutScheme hcut) with ⟨extra, hextra, hbase, -⟩ |
    ⟨extra, c, hextra, hlast, hbase⟩
  · obtain ⟨more, hmore, hafter⟩ := exists_kept h hserver hextra hbase
    refine ⟨more ++ '/' :: tail, h.replace ?_ ?_⟩
    · rw [htail, hmore]
      simp
    · cases more with
      | nil => exact hslash
      | cons c more =>
        rintro d ⟨⟩
        exact h.atMark c (by rw [hafter]; rfl)
  · have hne : after ≠ [] := by
      intro hnil
      exact hhides ⟨(noMark_behindScheme_iff h).2 hnil, c, hlast, hextra c (by simp)⟩
    refine ⟨after ++ (extra ++ [c] ++ '/' :: tail), h.replace ?_ ?_⟩
    · rw [htail, hbase, h.text_eq]
      simp
    · intro d hd
      rw [List.head?_append_of_ne_nil _ hne] at hd
      exact h.atMark d hd

/-- In a composed URL a control that the base hides ends the server part. -/
theorem split_compose_of_hidesControl (h : Split scheme (cleaned base.toList) front sv after)
    (hserver : server scheme true sv = .ok r) (hhides : HidesControl base) (path query : String) :
    ∃ sv' after' c, Split scheme (cleaned (composeUrl base path query).toList) front sv' after' ∧
      c ∈ sv'.getLast? ∧ IsFiller c := by
  obtain ⟨tail, htail⟩ := cleaned_compose base path query
  obtain ⟨rest, hcut, -⟩ := h.exists_cut
  obtain rfl : after = [] := (noMark_behindScheme_iff h).1 hhides.runsOut
  rcases cleaned_base (isAlpha_of_cutScheme hcut) with ⟨extra, hextra, hbase, hnone⟩ |
    ⟨extra, c, hextra, -, hbase⟩
  · exfalso
    obtain ⟨more, -, hnil⟩ := exists_kept h hserver hextra hbase
    obtain ⟨c, hlast, hcontrol⟩ := hhides.control
    have hedge := hnone (List.append_eq_nil_iff.1 hnil.symm).2 c hlast
    simp only [isEdge, decide_eq_false_iff_not] at hedge
    exact hedge hcontrol
  · have hfill : NoMark (extra ++ [c]) := noMark_of_filler fun d hd => .inl (hextra d hd)
    refine ⟨sv ++ (extra ++ [c]), '/' :: tail, c, ⟨?_, h.isFront, h.kind, ?_, ?_, ?_⟩, ?_, ?_⟩
    · rw [htail, hbase, h.text_eq]
      simp
    · simp
    · exact h.noMark.append hfill
    · rintro d ⟨⟩
      decide
    · rw [← List.append_assoc, List.getLast?_concat]
      rfl
    · exact .inl (hextra c (by simp))

end

/-! ## Requests -/

/-- A request that goes to the server of a URL. -/
structure Reaches (r : Request) (u : Url) : Prop where
  sendable : r.unsendable? = none
  exists_url : ∃ v, parse r.url = .ok v ∧ v.scheme = u.scheme ∧ v.host? = u.host? ∧ v.port? = u.port?

/-- A request whose URL is refused before any connection is tried. -/
def Refused (r : Request) : Prop :=
  ∃ fault, r.unsendable? = some (.invalidUrl (Fault.message fault ++ ": " ++ r.url))

theorem Refused.not_reaches {r : Request} (h : Refused r) (u : Url) : ¬Reaches r u := by
  obtain ⟨fault, h⟩ := h
  intro hreaches
  rw [hreaches.sendable] at h
  cases h

section

variable {base path query : String} {u : Url} {r : Request}

theorem reaches_of_composed (hparse : parse base = .ok u) (hhttp : u.isHttp = true)
    (hhides : ¬HidesControl base) (hr : r.url = composeUrl base path query) : Reaches r u := by
  obtain ⟨front, sv, after, q, hsplit, hserver, hauthority⟩ := exists_split_of_parse hparse hhttp
  obtain ⟨after', hsplit'⟩ := split_compose hsplit hserver hhides path query
  have hcomposed := hsplit'.parse_eq
  rw [← hr, hserver] at hcomposed
  have hsame : (finish u.scheme (some q.1) (segmentPath .server) after').isHttp = u.isHttp ∧ _ :=
    same_server rfl hauthority.symm
  refine ⟨?_, _, hcomposed, rfl, hsame.2⟩
  unfold Request.unsendable?
  rw [hcomposed]
  exact if_pos (hsame.1.trans hhttp)

theorem refused_of_composed (hparse : parse base = .ok u) (hhttp : u.isHttp = true)
    (hhides : HidesControl base) (hr : r.url = composeUrl base path query) : Refused r := by
  obtain ⟨front, sv, after, q, hsplit, hserver, -⟩ := exists_split_of_parse hparse hhttp
  obtain ⟨sv', after', c, hsplit', hlast, hfill⟩ :=
    split_compose_of_hidesControl hsplit hserver hhides path query
  obtain ⟨fault, hfault⟩ := server_refuses u.scheme hfill hlast hsplit'.noMark atMark_nil
  have hcomposed := hsplit'.parse_eq
  rw [List.append_nil] at hfault
  rw [← hr, hfault] at hcomposed
  refine ⟨fault, ?_⟩
  unfold Request.unsendable?
  rw [hcomposed]
  rfl

end

theorem url_composeRequest (base : String) (method : Method) (path query body : String) :
    (composeRequest base method path query body).url = composeUrl base path query := by
  rw [composeRequest]

/-- Settings that pass the check have a base that does. -/
theorem exists_url_of_validate {settings : Settings} (h : settings.validate = .ok ()) :
    ∃ u, parse settings.baseUrl = .ok u ∧ u.isHttp = true := by
  apply exists_url_of_checkBaseUrl
  unfold Settings.validate at h
  split at h
  · assumption
  · cases h

/-- **Requests under a checked base reach the server of the base**, unless the base hides a control;
then every one of them is refused. -/
theorem base_reached_iff (settings : Settings) (h : settings.validate = .ok ()) :
    ∃ u, parse settings.baseUrl = .ok u ∧ u.isHttp = true ∧
      (∀ method path query body,
        (Reaches (composeRequest settings.baseUrl method path query body) u ↔
          ¬HidesControl settings.baseUrl) ∧
        (Refused (composeRequest settings.baseUrl method path query body) ↔
          HidesControl settings.baseUrl)) ∧
      ∀ hint rule ops p, .issued p ∈ (Session.start settings.baseUrl hint rule).trace ops →
        (Reaches p.request u ↔ ¬HidesControl settings.baseUrl) ∧
        (Refused p.request ↔ HidesControl settings.baseUrl) := by
  obtain ⟨u, hparse, hhttp⟩ := exists_url_of_validate h
  have hboth : ∀ r path query, r.url = composeUrl settings.baseUrl path query →
      (Reaches r u ↔ ¬HidesControl settings.baseUrl) ∧
      (Refused r ↔ HidesControl settings.baseUrl) := by
    intro r path query hr
    by_cases hhides : HidesControl settings.baseUrl
    · have hrefused := refused_of_composed hparse hhttp hhides hr
      exact ⟨iff_of_false (hrefused.not_reaches u) (not_not.2 hhides), iff_of_true hrefused hhides⟩
    · have hreaches := reaches_of_composed hparse hhttp hhides hr
      exact ⟨iff_of_true hreaches hhides, iff_of_false (·.not_reaches u hreaches) hhides⟩
  refine ⟨u, hparse, hhttp, ?_, ?_⟩
  · intro method path query body
    exact hboth _ path query (url_composeRequest ..)
  · intro hint rule ops p hp
    exact hboth _ _ _ (Session.url_of_issued hp).1

/-- A control behind the path of a base does no harm. -/
def apiBase : Settings := { baseUrl := " http://user@localhost:8080/api/\x01" }

theorem base_reached_api :
    apiBase.validate = .ok () ∧ ∃ u, parse apiBase.baseUrl = .ok u ∧
      ∀ method path query body,
        Reaches (composeRequest apiBase.baseUrl method path query body) u := by
  have hvalid : apiBase.validate = .ok () := by decide +kernel
  have hopen : ¬HidesControl apiBase.baseUrl := by
    intro hhides
    exact absurd (hhides.runsOut '/' (by decide +kernel)) (by decide)
  obtain ⟨u, hparse, -, hrequests, -⟩ := base_reached_iff apiBase hvalid
  exact ⟨hvalid, u, hparse, fun method path query body =>
    (hrequests method path query body).1.2 hopen⟩

/-- A control behind the server of a base. -/
def controlBase : Settings := { baseUrl := "http://localhost\x01" }

/-- **A base may pass the check and have every request under it refused.** -/
theorem control_refused :
    controlBase.validate = .ok () ∧
      parse (composeUrl controlBase.baseUrl "/health" "") = .error .invalidDomain ∧
      (composeRequest controlBase.baseUrl .get "/health" "" "").unsendable? =
        some (.invalidUrl
          "invalid international domain name: http://localhost\x01/health") := by
  decide +kernel

end ApiConsole
