import ApiConsole.Proofs.Url.Server

/-!
# URLs of the same server

A text is the URL of a server if it is made of a front, which is the scheme with its colon and
slashes, a server part and what follows it (`exists_split_of_parse`). Scheme and server are read off
the first two parts alone (`Split.parse_eq`).
-/
namespace ApiConsole.Url

open Text

/-! ## Results of readers -/

/-- What is built on a result has the result behind it. -/
theorem exists_of_bind_eq_ok {ε α β : Type} {x : Except ε α} {f : α → Except ε β} {b : β}
    (h : (x >>= f) = .ok b) : ∃ a, x = .ok a ∧ f a = .ok b := by
  cases x with
  | error e => cases h
  | ok a => exact ⟨a, rfl, h⟩

theorem map_eq_ok_iff {ε α β : Type} {f : α → β} {x : Except ε α} {b : β} :
    x.map f = .ok b ↔ ∃ a, x = .ok a ∧ f a = b := by
  cases x with
  | error e => simp [Except.map]
  | ok a => simp [Except.map]

/-! ## Schemes and slashes -/

/-- A slash of either kind. -/
def isSlash (c : Char) : Bool := c == '/' || c == '\\'

theorem isSlash_of_noMark {c : Char} (h : endsServer true c = false) : isSlash c = false := by
  simp only [endsServer, Bool.true_and, Bool.or_eq_false_iff, beq_eq_false_iff_ne] at h
  simp [isSlash, h]

/-- A scheme with its colon and the slashes behind it. -/
def IsFront (scheme : String) (front : List Char) : Prop :=
  ∀ s, (∀ c ∈ s.head?, isSlash c = false) →
    ∃ rest, cutScheme? (front ++ s) = some (scheme, rest) ∧ rest.dropWhile isSlash = s

/-- A scheme begins with a letter. -/
theorem isAlpha_of_cutScheme {s : List Char} {cut : String × List Char}
    (h : cutScheme? s = some cut) : ∃ c ∈ s.head?, c.isAlpha = true := by
  unfold cutScheme? at h
  split at h
  · cases h
  · next c t =>
    split at h
    · next halpha _ => exact ⟨c, rfl, halpha⟩
    · cases h

/-- A scheme is cut off from a front with text behind it. -/
theorem exists_front {s rest : List Char} {scheme : String}
    (h : cutScheme? s = some (scheme, rest)) :
    ∃ front, IsFront scheme front ∧ s = front ++ rest.dropWhile isSlash := by
  unfold cutScheme? at h
  split at h
  · cases h
  · next c t =>
    split at h
    · next rest' halpha hrest =>
      cases h
      have hword : ∀ d ∈ (c :: t).takeWhile isSchemeChar, isSchemeChar d = true :=
        fun d hd => List.mem_takeWhile_imp hd
      have hscheme : isSchemeChar c = true := by simp [isSchemeChar, Char.isAlphanum, halpha]
      have hslashes : ∀ d ∈ rest.takeWhile isSlash, isSlash d = true :=
        fun d hd => List.mem_takeWhile_imp hd
      refine ⟨(c :: t).takeWhile isSchemeChar ++ ':' :: rest.takeWhile isSlash, ?_, ?_⟩
      · intro s hs
        refine ⟨rest.takeWhile isSlash ++ s, ?_, (cut_append hslashes hs).2⟩
        have hcut := cut_append (t := ':' :: (rest.takeWhile isSlash ++ s)) hword
          (by rintro d ⟨⟩; decide)
        rw [List.append_assoc, List.cons_append]
        rw [List.takeWhile_cons_of_pos hscheme] at hcut ⊢
        rw [List.cons_append] at hcut ⊢
        unfold cutScheme?
        simp only [halpha, hcut]
      · rw [List.append_assoc, List.cons_append, List.takeWhile_append_dropWhile, ← hrest,
          List.takeWhile_append_dropWhile]
    · cases h

theorem scheme_fileUrl {s : List Char} {u : Url} (h : fileUrl s = .ok u) : u.scheme = "file" := by
  unfold fileUrl at h
  simp only at h
  split at h
  · split at h
    · split at h
      · cases h
        rfl
      · obtain ⟨host, -, h⟩ := exists_of_bind_eq_ok h
        cases h
        split <;> rfl
    · cases h
      rfl
  · cases h
    rfl

theorem scheme_plainUrl {scheme : String} {s : List Char} {u : Url}
    (h : plainUrl scheme s = .ok u) : u.scheme = scheme := by
  unfold plainUrl at h
  split at h
  · obtain ⟨r, -, h⟩ := exists_of_bind_eq_ok h
    cases h
    rfl
  · cases h
    rfl
  · cases h
    rfl

theorem serverUrl_eq (scheme : String) (s : List Char) :
    serverUrl scheme s = (server scheme true (s.dropWhile isSlash)).map fun r =>
      finish scheme (some r.1) (segmentPath .server) r.2 := by
  unfold serverUrl
  change Except.bind (server scheme true (s.dropWhile isSlash)) _ = _
  cases server scheme true (s.dropWhile isSlash) <;> rfl

/-- A URL of the scheme `http` or `https` is read as that of a server. -/
theorem serverUrl_of_parse {text : String} {u : Url} (h : parse text = .ok u)
    (hhttp : u.isHttp = true) :
    ∃ rest, cutScheme? (cleaned text.toList) = some (u.scheme, rest) ∧
      schemeKind u.scheme = .server ∧ serverUrl u.scheme rest = .ok u := by
  have hscheme : u.scheme = "http" ∨ u.scheme = "https" := by
    simpa [isHttp] using hhttp
  have hserver : schemeKind u.scheme = .server := by
    rcases hscheme with h | h <;> rw [h] <;> decide
  unfold parse at h
  split at h
  · cases h
  · next scheme rest hcut =>
    split at h
    · next hkind =>
      have hu : u.scheme = scheme := by
        rw [serverUrl_eq] at h
        obtain ⟨r, -, hr⟩ := map_eq_ok_iff.1 h
        rw [← hr]
        rfl
      rw [hu]
      exact ⟨rest, hcut, hkind, h⟩
    · rcases hscheme with hs | hs <;> rw [scheme_fileUrl h] at hs <;> exact absurd hs (by decide)
    · next hkind =>
      rw [← scheme_plainUrl h, hserver] at hkind
      cases hkind

/-- Host and port depend on scheme and authority alone, and so does whether a URL can be sent to. -/
theorem same_server {u v : Url} (hscheme : v.scheme = u.scheme)
    (hauthority : v.authority = u.authority) :
    v.isHttp = u.isHttp ∧ v.host? = u.host? ∧ v.port? = u.port? := by
  unfold isHttp host? port?
  rw [hscheme, hauthority]
  exact ⟨rfl, rfl, rfl⟩

/-! ## The three parts -/

/-- A text in three parts: a front, a server part, and what follows it. -/
structure Split (scheme : String) (text front sv after : List Char) : Prop where
  text_eq : text = front ++ (sv ++ after)
  isFront : IsFront scheme front
  kind : schemeKind scheme = .server
  ne_nil : sv ≠ []
  noMark : NoMark sv
  atMark : AtMark after

namespace Split

variable {text scheme : String} {front sv after : List Char}

/-- The scheme is cut off in front of the server part. -/
theorem exists_cut {s : List Char} (h : Split scheme s front sv after) :
    ∃ rest, cutScheme? s = some (scheme, rest) ∧ rest.dropWhile isSlash = sv ++ after := by
  rw [h.text_eq]
  apply h.isFront
  intro c hc
  rw [List.head?_append_of_ne_nil _ h.ne_nil] at hc
  exact isSlash_of_noMark (h.noMark c (List.mem_of_mem_head? hc))

/-- **Scheme and server are read off the text up to the end of the server part.** -/
theorem parse_eq (h : Split scheme (cleaned text.toList) front sv after) :
    parse text = (server scheme true sv).map fun r =>
      finish scheme (some r.1) (segmentPath .server) after := by
  obtain ⟨rest, hcut, hrest⟩ := h.exists_cut
  unfold parse
  rw [hcut]
  simp only [h.kind]
  rw [serverUrl_eq, hrest, server_append scheme h.noMark h.atMark]
  cases server scheme true sv <;> rfl

/-- A text with another end that begins with a mark has the same front and server part. -/
theorem replace {s : List Char} (h : Split scheme s front sv after) {t after' : List Char}
    (ht : t = front ++ (sv ++ after')) (hafter : AtMark after') :
    Split scheme t front sv after' :=
  ⟨ht, h.isFront, h.kind, h.ne_nil, h.noMark, hafter⟩

end Split

theorem exists_split_of_parse {text : String} {u : Url} (h : parse text = .ok u)
    (hhttp : u.isHttp = true) :
    ∃ front sv after r, Split u.scheme (cleaned text.toList) front sv after ∧
      server u.scheme true sv = .ok r ∧ u.authority = some r.1 := by
  obtain ⟨rest, hcut, hkind, hserver⟩ := serverUrl_of_parse h hhttp
  obtain ⟨front, hfront, htext⟩ := exists_front hcut
  have hsplit := List.takeWhile_append_dropWhile (p := (!endsServer true ·))
    (l := rest.dropWhile isSlash)
  generalize hs : (rest.dropWhile isSlash).takeWhile (!endsServer true ·) = sv at hsplit
  generalize ha : (rest.dropWhile isSlash).dropWhile (!endsServer true ·) = after at hsplit
  have hsv : NoMark sv := by
    intro c hc
    rw [← hs] at hc
    simpa using List.mem_takeWhile_imp hc
  have hafter : AtMark after := by
    intro c hc
    rw [← ha] at hc
    simpa using head?_dropWhile hc
  rw [serverUrl_eq, ← hsplit, server_append u.scheme hsv hafter] at hserver
  obtain ⟨r, hr, hu⟩ := map_eq_ok_iff.1 hserver
  obtain ⟨q, hq, rfl⟩ := map_eq_ok_iff.1 hr
  have hne : sv ≠ [] := by
    rintro rfl
    cases hq
  refine ⟨front, sv, after, q, ⟨?_, hfront, hkind, hne, hsv, hafter⟩, hq, ?_⟩
  · rw [hsplit]
    exact htext
  · rw [← hu]
    rfl

end ApiConsole.Url
