import ApiConsole.Proofs.Text.Trim
import ApiConsole.Proofs.Text.Utf8
import ApiConsole.Url.Parser

/-!
# The server part of a URL

The server part is read on its own: what follows it has no influence on what is read
(`server_append`), and it is refused if it ends in a blank or a control (`server_refuses`). So two
texts that agree up to the end of the server name the same server (`exists_split_of_parse`,
`Split.parse`).
-/
namespace ApiConsole.Url

open Text

/-! ## Cuts -/

/-- A text without a character that ends the server part. -/
def NoMark (s : List Char) : Prop := ∀ c ∈ s, endsServer true c = false

/-- A text that the server part cannot run into. -/
def AtMark (s : List Char) : Prop := ∀ c ∈ s.head?, endsServer true c = true

theorem atMark_nil : AtMark [] := by
  intro c hc
  cases hc

theorem cut_server {sv after : List Char} (hsv : NoMark sv) (hafter : AtMark after) :
    (sv ++ after).takeWhile (!endsServer true ·) = sv ∧
      (sv ++ after).dropWhile (!endsServer true ·) = after :=
  cut_append (fun c hc => by simp [hsv c hc]) (fun c hc => by simp [hafter c hc])

/-! ## Host and port -/

theorem cutHost_append (inside : Bool) (s : List Char) :
    (cutHost inside s).1 ++ (cutHost inside s).2 = s := by
  fun_induction cutHost inside s with
  | case1 => rfl
  | case2 => rfl
  | case3 inside c rest _ inside' _ _ hrest ih => simpa [hrest] using ih

/-- The host ends at the end or at a colon. -/
theorem head?_cutHost (inside : Bool) (s : List Char) :
    ∀ c ∈ (cutHost inside s).2.head?, c = ':' := by
  fun_induction cutHost inside s with
  | case1 => simp
  | case2 inside c rest h => simp_all
  | case3 inside c rest _ inside' _ _ hrest ih => simpa [hrest] using ih

theorem cutCredentials_suffix (s : List Char) : (cutCredentials s).2 <:+ s := by
  unfold cutCredentials
  split
  · have h := List.takeWhile_prefix (· != '@') (l := s.reverse)
    simpa using List.reverse_suffix.2 h
  · exact List.suffix_refl s

theorem not_isDigit_of_mark {c : Char} (h : endsServer true c = true) : c.isDigit = false := by
  simp only [endsServer, Bool.true_and, Bool.or_eq_true, beq_iff_eq] at h
  rcases h with ((rfl | rfl) | rfl) | rfl <;> decide

theorem portNumber_append (scheme : String) {s after : List Char} (hs : NoMark s)
    (hafter : AtMark after) :
    portNumber scheme (s ++ after) = (portNumber scheme s).map fun r => (r.1, after) := by
  have hs' := List.takeWhile_append_dropWhile (p := Char.isDigit) (l := s)
  have hdigits : ∀ c ∈ s.takeWhile Char.isDigit, c.isDigit = true :=
    fun c hc => List.mem_takeWhile_imp hc
  cases hr : s.dropWhile Char.isDigit with
  | nil =>
    rw [hr, List.append_nil] at hs'
    rw [hs'] at hdigits
    have hcut := cut_append hdigits fun c hc => not_isDigit_of_mark (hafter c hc)
    unfold portNumber
    cases after with
    | nil =>
      simp only [hcut, hr, hs']
      cases digitsValue? 10 s with
      | none => rfl
      | some n =>
        simp only
        split <;> rfl
    | cons c after =>
      simp only [hcut, hr, hs', hafter c rfl]
      cases digitsValue? 10 s with
      | none => rfl
      | some n =>
        simp only
        split <;> rfl
  | cons c r =>
    have hc : c.isDigit = false := head?_dropWhile (s := s) (by rw [hr]; rfl)
    have hmark : endsServer true c = false := by
      apply hs
      rw [← hs', hr]
      simp
    have hcut := cut_append (t := c :: (r ++ after)) hdigits (by rintro d ⟨⟩; exact hc)
    have hwhole : s ++ after = s.takeWhile Char.isDigit ++ c :: (r ++ after) := by
      conv_lhs => rw [← hs', hr]
      simp
    unfold portNumber
    rw [hwhole]
    simp only [hcut, hr, hmark, Bool.not_false, Bool.or_true, if_true]
    cases digitsValue? 10 (s.takeWhile Char.isDigit) <;> rfl

theorem optionalPort_append (scheme : String) {s after : List Char} (hs : NoMark s)
    (hcolon : ∀ c ∈ s.head?, c = ':') (hafter : AtMark after) :
    optionalPort scheme (s ++ after) = (optionalPort scheme s).map fun r => (r.1, after) := by
  cases s with
  | nil =>
    cases after with
    | nil => rfl
    | cons c after =>
      have hc : c ≠ ':' := by
        rintro rfl
        exact absurd (hafter ':' rfl) (by decide)
      simp [optionalPort, hc, Except.map]
  | cons c s =>
    obtain rfl := hcolon c rfl
    exact portNumber_append scheme (fun d hd => hs d (List.mem_cons_of_mem _ hd)) hafter

/-! ## Server parts -/

theorem bracketed_ne {s : List Char} {host : Host} (h : bracketed s = .ok host) :
    host ≠ .name "" := by
  unfold bracketed at h
  split at h
  · split at h
    · cases h
      exact nofun
    · cases h
  · cases h

/-- A host of a server is not empty. -/
theorem domainHost_ne {s : List Char} {host : Host} (h : domainHost s = .ok host) :
    host ≠ .name "" := by
  unfold domainHost at h
  split at h
  · exact bracketed_ne h
  · split at h
    · cases h
    · next decoded _ =>
      split at h
      · cases h
      · simp only at h
        split at h
        · cases h
        · next hne =>
          split at h
          · cases h
          · split at h
            · split at h
              · cases h
                exact nofun
              · cases h
            · cases h
              simpa using hne

/-- The text of the host in a server part. -/
def hostText (sv : List Char) : List Char := (cutHost false (cutCredentials sv).2).1

/-- What stands behind the host in a server part. -/
def portText (sv : List Char) : List Char := (cutHost false (cutCredentials sv).2).2

/-- The server of a host and a port, with the credentials that stand in front of them. -/
def authorityOf (sv : List Char) (host : Host) (port : Option Nat) : Authority :=
  ⟨(credentials ((cutCredentials sv).1.getD [])).1, (credentials ((cutCredentials sv).1.getD [])).2,
    host, port⟩

theorem server_eq (scheme : String) {sv after : List Char} (hsv : NoMark sv)
    (hafter : AtMark after) :
    server scheme true (sv ++ after) =
      if hostText sv = [] then .error .emptyHost
      else (domainHost (hostText sv)).bind fun host =>
        (optionalPort scheme (portText sv ++ after)).map fun r =>
          (authorityOf sv host r.1, r.2) := by
  have hcut := cut_server hsv hafter
  unfold server
  simp only [hcut]
  by_cases hhost : hostText sv = []
  · rw [if_pos hhost]
    unfold hostText at hhost
    simp only [hhost, List.isEmpty_nil, Bool.and_true, if_true]
    split <;> rfl
  · have hne : (cutCredentials sv).2 ≠ [] := by
      intro hnil
      apply hhost
      unfold hostText
      rw [hnil]
      rfl
    rw [if_neg hhost]
    unfold hostText at hhost ⊢
    rw [if_neg (by simp [hne]), if_neg (by simp [hhost]), if_pos trivial]
    cases hdomain : domainHost (cutHost false (cutCredentials sv).2).1 with
    | error e => rfl
    | ok host =>
      have hname := domainHost_ne hdomain
      simp only [Except.bind, bind]
      rw [if_neg (by simp [hname])]
      change Except.bind (optionalPort scheme (portText sv ++ after)) _ = _
      cases hport : optionalPort scheme (portText sv ++ after) with
      | error e => rfl
      | ok r =>
        simp only [Except.bind]
        rw [if_neg (by simp [hname])]
        rfl

/-- A server part on its own. -/
theorem server_alone (scheme : String) {sv : List Char} (hsv : NoMark sv) :
    server scheme true sv =
      if hostText sv = [] then .error .emptyHost
      else (domainHost (hostText sv)).bind fun host =>
        (optionalPort scheme (portText sv)).map fun r => (authorityOf sv host r.1, r.2) := by
  have h := server_eq scheme hsv atMark_nil
  rwa [List.append_nil, List.append_nil] at h

theorem noMark_portText {sv : List Char} (hsv : NoMark sv) : NoMark (portText sv) := by
  intro c hc
  apply hsv
  apply (cutCredentials_suffix sv).subset
  rw [← cutHost_append false (cutCredentials sv).2]
  exact List.mem_append_right _ hc

/-- **What follows the server part has no influence on what is read.** -/
theorem server_append (scheme : String) {sv after : List Char} (hsv : NoMark sv)
    (hafter : AtMark after) :
    server scheme true (sv ++ after) = (server scheme true sv).map fun r => (r.1, after) := by
  have hport : optionalPort scheme (portText sv ++ after) = _ :=
    optionalPort_append scheme (noMark_portText hsv) (head?_cutHost _ _) hafter
  rw [server_eq scheme hsv hafter, server_alone scheme hsv, hport]
  split
  · rfl
  · cases domainHost (hostText sv) with
    | error e => rfl
    | ok host => cases optionalPort scheme (portText sv) <;> rfl

/-! ## Ends that are refused -/

/-- A blank or a control. -/
def IsFiller (c : Char) : Prop := c.toNat ≤ 0x20 ∨ isBlank c = true

theorem IsFiller.toNat {c : Char} (h : IsFiller c) : c.toNat ≤ 0x20 ∨ 0x80 ≤ c.toNat := by
  rcases h with h | h
  · exact .inl h
  · simp only [isBlank, Bool.or_eq_true, Bool.and_eq_true, decide_eq_true_eq, beq_iff_eq] at h
    omega

/-- A filler is none of the characters that mean something in a URL. -/
theorem IsFiller.ne {c d : Char} (h : IsFiller c) (hd : (0x20 < d.toNat && d.toNat < 0x80) = true) :
    c ≠ d := by
  rintro rfl
  have := h.toNat
  simp only [Bool.and_eq_true, decide_eq_true_eq] at hd
  omega

theorem noMark_of_filler {s : List Char} (h : ∀ c ∈ s, IsFiller c) : NoMark s := by
  intro c hc
  have hne : ∀ d : Char, (0x20 < d.toNat && d.toNat < 0x80) = true → c ≠ d := fun d => (h c hc).ne
  simp [endsServer, hne '/' (by decide), hne '?' (by decide), hne '#' (by decide),
    hne '\\' (by decide)]

theorem NoMark.append {s t : List Char} (hs : NoMark s) (ht : NoMark t) : NoMark (s ++ t) :=
  fun c hc => (List.mem_append.1 hc).elim (hs c) (ht c)

theorem IsFiller.forbidden {c : Char} (h : IsFiller c) : isForbiddenInDomain c = true := by
  rcases h with h | h <;> simp [isForbiddenInDomain, h]

theorem IsFiller.isDigit {c : Char} (h : IsFiller c) : c.isDigit = false := by
  have hfar := h.toNat
  have hdigit : c.isDigit = true ↔ 48 ≤ c.toNat ∧ c.toNat ≤ 57 := by
    simp [Char.isDigit, UInt32.le_iff_toNat_le]
  rw [Bool.eq_false_iff, Ne, hdigit]
  omega

theorem IsFiller.hexValue? {c : Char} (h : IsFiller c) : hexValue? c = none := by
  have hfar := h.toNat
  have hle : ∀ a b : Char, a ≤ b ↔ a.toNat ≤ b.toNat := fun a b => UInt32.le_iff_toNat_le
  have hlower : ('a' ≤ c && c ≤ 'f') = false := by
    have ha : 'a'.toNat = 97 := rfl
    have hf : 'f'.toNat = 102 := rfl
    simp only [Bool.and_eq_false_iff, decide_eq_false_iff_not, hle]
    omega
  have hupper : ('A' ≤ c && c ≤ 'F') = false := by
    have ha : 'A'.toNat = 65 := rfl
    have hf : 'F'.toNat = 70 := rfl
    simp only [Bool.and_eq_false_iff, decide_eq_false_iff_not, hle]
    omega
  unfold Url.hexValue?
  rw [if_neg (by simp [h.isDigit]), if_neg (by simp [hlower]), if_neg (by simp [hupper])]

theorem percentDecodeBytes_concat (s : List Char) {c : Char} (hc : hexValue? c = none) :
    ∃ before, percentDecodeBytes (s ++ [c]) = before ++ String.utf8EncodeChar c := by
  fun_induction percentDecodeBytes s with
  | case1 => exact ⟨[], by simp [percentDecodeBytes]⟩
  | case2 a b rest y x hx hy ih =>
    obtain ⟨before, ih⟩ := ih
    refine ⟨UInt8.ofNat (y * 16 + x) :: before, ?_⟩
    simp only [List.cons_append, percentDecodeBytes, hx, hy, ih]
  | case3 a b rest hab ih =>
    obtain ⟨before, ih⟩ := ih
    refine ⟨0x25 :: before, ?_⟩
    simp only [List.cons_append, percentDecodeBytes] at ih ⊢
    rw [ih]
  | case4 d rest hshort ih =>
    obtain ⟨before, ih⟩ := ih
    refine ⟨String.utf8EncodeChar d ++ before, ?_⟩
    rw [List.append_assoc, ← ih, List.cons_append]
    by_cases hd : d = '%'
    · subst hd
      -- A percent sign with at most one character behind it, and then `c`.
      cases rest with
      | nil => simp [percentDecodeBytes]
      | cons a rest =>
        cases rest with
        | nil =>
          simp only [List.cons_append, List.nil_append, percentDecodeBytes, hc]
          cases hexValue? a <;> rfl
        | cons b rest => exact (hshort a b rest rfl rfl).elim
    · rw [percentDecodeBytes]
      intro a b rest' h
      exact absurd h hd

theorem percentDecode?_concat {s decoded : List Char} {c : Char} (hc : hexValue? c = none)
    (h : percentDecode? (s ++ [c]) = some decoded) : c ∈ decoded := by
  obtain ⟨before, hbytes⟩ := percentDecodeBytes_concat s hc
  unfold percentDecode? at h
  have hencoded := encode_of_symbols h
  rw [hbytes] at hencoded
  obtain ⟨t, rfl⟩ := exists_of_encode_eq hencoded.symm
  simp

theorem domainHost_refuses (s : List Char) {c : Char} (hc : IsFiller c) :
    ∃ fault, domainHost (s ++ [c]) = .error fault := by
  unfold domainHost
  split
  · next inner hinner =>
    have hlast : inner.getLast? ≠ some ']' := by
      intro h
      have hends := congrArg List.getLast? hinner
      rw [List.getLast?_concat, List.getLast?_cons, h] at hends
      exact hc.ne (by decide) (Option.some.inj hends)
    refine ⟨.invalidIpv6, ?_⟩
    unfold bracketed
    split
    · next h => exact absurd h hlast
    · rfl
  · split
    · exact ⟨_, rfl⟩
    · next decoded hdecoded =>
      have hforbidden : decoded.any isForbiddenInDomain = true :=
        List.any_eq_true.2 ⟨c, percentDecode?_concat hc.hexValue? hdecoded, hc.forbidden⟩
      rw [if_pos hforbidden]
      exact ⟨_, rfl⟩

theorem portNumber_refuses (scheme : String) (s : List Char) {c : Char} (hc : IsFiller c)
    (hs : NoMark (s ++ [c])) : portNumber scheme (s ++ [c]) = .error .invalidPort := by
  have hrest := List.takeWhile_append_dropWhile (p := Char.isDigit) (l := s ++ [c])
  cases hr : (s ++ [c]).dropWhile Char.isDigit with
  | nil =>
    have hdigit := List.dropWhile_eq_nil_iff.1 hr c (by simp)
    rw [hc.isDigit] at hdigit
    cases hdigit
  | cons d r =>
    have hmark : endsServer true d = false := by
      apply hs
      rw [← hrest, hr]
      simp
    unfold portNumber
    simp only [hr, hmark, Bool.not_false, Bool.or_true, if_true]
    cases digitsValue? 10 ((s ++ [c]).takeWhile Char.isDigit) <;> rfl

/-- **A server part that ends in a blank or a control is refused.** -/
theorem server_refuses (scheme : String) {sv after : List Char} {c : Char} (hc : IsFiller c)
    (hlast : c ∈ sv.getLast?) (hsv : NoMark sv) (hafter : AtMark after) :
    ∃ fault, server scheme true (sv ++ after) = .error fault := by
  rw [server_append scheme hsv hafter, server_alone scheme hsv]
  split
  · exact ⟨_, rfl⟩
  · next hhost =>
    have hsplit : hostText sv ++ portText sv = (cutCredentials sv).2 := cutHost_append _ _
    have hend : c ∈ (hostText sv ++ portText sv).getLast? := by
      obtain ⟨before, hsv'⟩ := cutCredentials_suffix sv
      rw [hsplit]
      have hne : (cutCredentials sv).2 ≠ [] := by
        rw [← hsplit]
        simp [hhost]
      rwa [← hsv', List.getLast?_append_of_ne_nil _ hne] at hlast
    by_cases hport : portText sv = []
    · -- The host ends in the filler.
      rw [hport, List.append_nil] at hend
      obtain ⟨s, hs⟩ := List.getLast?_eq_some_iff.1 hend
      obtain ⟨fault, hfault⟩ := domainHost_refuses s hc
      rw [hs, hfault]
      exact ⟨fault, rfl⟩
    · -- The port does.
      rw [List.getLast?_append_of_ne_nil _ hport] at hend
      obtain ⟨s, hs⟩ := List.getLast?_eq_some_iff.1 hend
      cases domainHost (hostText sv) with
      | error e => exact ⟨e, rfl⟩
      | ok host =>
        have hfault : optionalPort scheme (portText sv) = .error .invalidPort := by
          have hcolon := head?_cutHost false (cutCredentials sv).2
          have hmark := noMark_portText hsv
          change ∀ d ∈ (portText sv).head?, d = ':' at hcolon
          rw [hs] at hcolon hmark ⊢
          cases s with
          | nil => exact absurd (hcolon c rfl) (hc.ne (by decide))
          | cons d s =>
            obtain rfl := hcolon d rfl
            exact portNumber_refuses scheme s hc fun e he => hmark e (List.mem_cons_of_mem _ he)
        rw [hfault]
        exact ⟨_, rfl⟩

end ApiConsole.Url
