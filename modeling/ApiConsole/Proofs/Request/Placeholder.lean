import ApiConsole.Proofs.Text.Trim
import ApiConsole.Request
import Mathlib.Tactic.Common

/-!
# Where placeholders stand

What a placeholder is can be said of a place in a path, by the text in front of it and the text behind
it (`Stands`). The search passes over each placeholder that it finds, but nothing that stands inside
one is a placeholder, for there is no slash and no opening brace in it (`Located.pass`). So the search
finds at each place what stands there (`searches`).

Main theorem `placeholders_exact`: the placeholders of a path are those that stand at its places, each
once and from left to right.
-/
namespace ApiConsole.Placeholder

/-! ## Places -/

/-- A character of a name behind a colon. -/
def NameCharacter (c : Char) : Prop := c.isAlphanum ∨ c = '_' ∨ c = '-'

/-- The placeholder that stands in front of a text, with another text before it: a name in braces that
holds no slash and no brace, or a colon at the start of a segment with the longest name behind it. -/
inductive Stands (before : List Char) : List Char → Placeholder → Prop where
  | braced {name after : List Char} (hne : name ≠ [])
      (hname : ∀ c ∈ name, c ≠ '/' ∧ c ≠ '\x7b' ∧ c ≠ '\x7d') :
      Stands before ('\x7b' :: (name ++ '\x7d' :: after)) (.braced name)
  | colon {c : Char} {name after : List Char} (hbefore : before = [] ∨ before.getLast? = some '/')
      (hc : c.isAlpha ∨ c = '_') (hname : ∀ d ∈ name, NameCharacter d)
      (hafter : ∀ d ∈ after.head?, ¬ NameCharacter d) :
      Stands before (':' :: c :: (name ++ after)) (.colon (c :: name))

/-- A placeholder stands at a place of a path. -/
def StandsAt (path : List Char) (i : Nat) (p : Placeholder) : Prop :=
  Stands (path.take i) (path.drop i) p

theorem standsAt_append {before s : List Char} {p : Placeholder} :
    StandsAt (before ++ s) before.length p ↔ Stands before s p := by
  rw [StandsAt, List.take_left, List.drop_left]

theorem Stands.starts_with_literal {before s : List Char} {p : Placeholder} (h : Stands before s p) :
    p.literal.toList <+: s := by
  cases h with
  | @braced name after => exact ⟨after, by simp [Placeholder.braced]⟩
  | @colon c name after => exact ⟨after, by simp [Placeholder.colon]⟩

/-! ## What is read at a place -/

theorem isNameStart_iff {c : Char} : isNameStart c = true ↔ c.isAlpha ∨ c = '_' := by
  simp [isNameStart]

theorem isNameChar_iff {c : Char} : isNameChar c = true ↔ NameCharacter c := by
  simp [isNameChar, NameCharacter, or_assoc]

theorem isNameChar_of_isNameStart {c : Char} (h : isNameStart c = true) : isNameChar c = true := by
  obtain h | h := isNameStart_iff.1 h
  · exact isNameChar_iff.2 (.inl (by simp [Char.isAlphanum, h]))
  · exact isNameChar_iff.2 (.inr (.inl h))

theorem stopsName_eq_false_iff {c : Char} :
    stopsName c = false ↔ c ≠ '/' ∧ c ≠ '\x7b' ∧ c ≠ '\x7d' := by
  simp [stopsName, and_assoc]

theorem afterBrace_eq_some_iff {s tail : List Char} {p : Placeholder} :
    afterBrace s = some (p, tail) ↔
      ∃ name, name ≠ [] ∧ (∀ c ∈ name, stopsName c = false) ∧ s = name ++ '\x7d' :: tail ∧
        p = .braced name := by
  constructor
  · intro h
    simp only [afterBrace] at h
    have hsplit := List.takeWhile_append_dropWhile (p := (!stopsName ·)) (l := s)
    have hname : ∀ c ∈ s.takeWhile (!stopsName ·), stopsName c = false := by
      intro c hc
      simpa using List.mem_takeWhile_imp hc
    split at h
    · next c name rest hrun hrest =>
      cases h
      rw [hrun] at hsplit hname
      rw [hrest] at hsplit
      exact ⟨_, List.cons_ne_nil _ _, hname, hsplit.symm, by rw [hrun]⟩
    · cases h
  · rintro ⟨name, hne, hname, rfl, rfl⟩
    obtain ⟨hrun, hrest⟩ := Text.cut_append (p := (!stopsName ·)) (t := '\x7d' :: tail)
      (fun c hc => by rw [hname c hc]; rfl) (by rintro c ⟨⟩; rfl)
    obtain ⟨c, name, rfl⟩ := List.exists_cons_of_ne_nil hne
    unfold afterBrace
    simp only [hrun, hrest]

theorem afterColon_eq_some_iff {s tail : List Char} {p : Placeholder} :
    afterColon s = some (p, tail) ↔
      ∃ c name, isNameStart c = true ∧ (∀ d ∈ name, isNameChar d = true) ∧
        (∀ d ∈ tail.head?, isNameChar d = false) ∧ s = c :: (name ++ tail) ∧
        p = .colon (c :: name) := by
  constructor
  · intro h
    unfold afterColon at h
    split at h
    · next c rest =>
      split at h
      · next hc =>
        cases h
        have hsplit := List.takeWhile_append_dropWhile (p := isNameChar) (l := rest)
        have hchar := isNameChar_of_isNameStart hc
        refine ⟨c, rest.takeWhile isNameChar, hc, fun d => List.mem_takeWhile_imp, ?_, ?_, ?_⟩
        · exact fun d => Text.head?_dropWhile
        · rw [List.dropWhile_cons_of_pos hchar, hsplit]
        · rw [List.takeWhile_cons_of_pos hchar]
      · cases h
    · cases h
  · rintro ⟨c, name, hc, hname, htail, rfl, rfl⟩
    have hrun : ∀ d ∈ c :: name, isNameChar d = true :=
      List.forall_mem_cons.2 ⟨isNameChar_of_isNameStart hc, hname⟩
    obtain ⟨htake, hdrop⟩ := Text.cut_append hrun htail
    unfold afterColon
    rw [List.cons_append] at htake hdrop
    simp only [htake, hdrop, hc, if_true]

/-- At an opening brace stands what is read behind it. -/
theorem stands_brace_iff {before rest : List Char} {p : Placeholder} :
    Stands before ('\x7b' :: rest) p ↔ ∃ tail, afterBrace rest = some (p, tail) := by
  simp only [afterBrace_eq_some_iff, stopsName_eq_false_iff]
  constructor
  · rintro (@⟨name, after, hne, hname⟩)
    exact ⟨after, name, hne, hname, rfl, rfl⟩
  · rintro ⟨tail, name, hne, hname, rfl, rfl⟩
    exact .braced hne hname

/-- At a colon stands what is read behind it, if a segment starts with the colon. -/
theorem stands_colon_iff {before rest : List Char} {p : Placeholder} :
    Stands before (':' :: rest) p ↔
      (before = [] ∨ before.getLast? = some '/') ∧ ∃ tail, afterColon rest = some (p, tail) := by
  simp only [afterColon_eq_some_iff, isNameStart_iff, isNameChar_iff, ← Bool.not_eq_true]
  constructor
  · intro h
    cases h with
    | @colon c name after hbefore hc hname hafter =>
      exact ⟨hbefore, after, c, name, hc, hname, hafter, rfl, rfl⟩
  · rintro ⟨hbefore, tail, c, name, hc, hname, htail, rfl, rfl⟩
    exact .colon hbefore hc hname htail

theorem not_stands {before rest : List Char} {c : Char} {p : Placeholder} (hbrace : c ≠ '\x7b')
    (hcolon : c ≠ ':') : ¬ Stands before (c :: rest) p := by
  rintro (_ | _)
  · exact hbrace rfl
  · exact hcolon rfl

/-! ## What has been found -/

/-- What is found of a path from a place on: what stands at each place, from left to right. -/
structure Located (path : List Char) (n : Nat) (found : List (Nat × Placeholder)) : Prop where
  ordered : (found.map Prod.fst).Pairwise (· < ·)
  mem_iff : ∀ i p, (i, p) ∈ found ↔ n ≤ i ∧ StandsAt path i p

namespace Located

theorem nil (path : List Char) : Located path path.length [] := by
  refine ⟨List.Pairwise.nil, fun i p => iff_of_false List.not_mem_nil ?_⟩
  rintro ⟨hi, h⟩
  rw [StandsAt, List.drop_eq_nil_of_le hi] at h
  cases h

/-- Nothing stands at the place that is passed over. -/
theorem skip {path : List Char} {n : Nat} {found : List (Nat × Placeholder)}
    (h : Located path (n + 1) found) (hn : ∀ p, ¬ StandsAt path n p) : Located path n found := by
  refine ⟨h.ordered, fun i p => (h.mem_iff i p).trans ?_⟩
  constructor
  · exact fun ⟨hi, hp⟩ => ⟨Nat.le_of_succ_le hi, hp⟩
  · rintro ⟨hi, hp⟩
    refine ⟨Nat.lt_of_le_of_ne hi ?_, hp⟩
    rintro rfl
    exact hn p hp

/-- One placeholder stands at the place. -/
theorem cons {path : List Char} {n : Nat} {found : List (Nat × Placeholder)} {p : Placeholder}
    (h : Located path (n + 1) found) (hn : ∀ q, StandsAt path n q ↔ q = p) :
    Located path n ((n, p) :: found) := by
  constructor
  · rw [List.map_cons, List.pairwise_cons]
    refine ⟨fun i hi => ?_, h.ordered⟩
    obtain ⟨⟨_, q⟩, hq, rfl⟩ := List.mem_map.1 hi
    exact ((h.mem_iff _ q).1 hq).1
  · intro i q
    rw [List.mem_cons, h.mem_iff, Prod.mk.injEq]
    constructor
    · rintro (⟨rfl, rfl⟩ | ⟨hi, hq⟩)
      · exact ⟨Nat.le_refl _, (hn q).2 rfl⟩
      · exact ⟨Nat.le_of_succ_le hi, hq⟩
    · rintro ⟨hi, hq⟩
      obtain rfl | hlt := Nat.eq_or_lt_of_le hi
      · exact .inl ⟨rfl, (hn q).1 hq⟩
      · exact .inr ⟨hlt, hq⟩

/-- Nothing stands in a piece of a segment without an opening brace, other than at its start. -/
theorem pass (before piece : List Char) {s : List Char}
    {found : List (Nat × Placeholder)}
    (h : Located (before ++ (piece ++ s)) (before.length + piece.length) found)
    (hbefore : before ≠ [] ∧ before.getLast? ≠ some '/')
    (hpiece : ∀ c ∈ piece, c ≠ '/' ∧ c ≠ '\x7b') :
    Located (before ++ (piece ++ s)) before.length found := by
  induction piece generalizing before with
  | nil => exact h
  | cons c piece ih =>
    obtain ⟨⟨hslash, hbrace⟩, hpiece⟩ := List.forall_mem_cons.1 hpiece
    have hrest : Located (before ++ (c :: piece ++ s)) (before.length + 1) found := by
      have hpass := ih (before ++ [c]) (by simpa [Nat.add_assoc, Nat.add_comm 1] using h)
        ⟨by simp, by simpa using hslash⟩ hpiece
      simpa using hpass
    refine hrest.skip fun p hp => ?_
    rw [standsAt_append, List.cons_append] at hp
    by_cases hcolon : c = ':'
    · subst hcolon
      exact (stands_colon_iff.1 hp).1.elim hbefore.1 hbefore.2
    · exact not_stands hbrace hcolon hp

end Located

/-! ## The search -/

/-- A text begins with the one placeholder that stands here. What the placeholder covers holds no
slash, and an opening brace only at its start. -/
def Covers (before : List Char) (p : Placeholder) (tail s : List Char) : Prop :=
  ∃ c piece, s = c :: (piece ++ tail) ∧ c ≠ '/' ∧ (∀ d ∈ piece, d ≠ '/' ∧ d ≠ '\x7b') ∧
    ∀ q, Stands before s q ↔ q = p

theorem covers_brace {rest tail : List Char} {p : Placeholder}
    (h : afterBrace rest = some (p, tail)) (before : List Char) :
    Covers before p tail ('\x7b' :: rest) := by
  have honly : ∀ q, Stands before ('\x7b' :: rest) q ↔ q = p := by
    intro q
    rw [stands_brace_iff, h]
    simp [eq_comm]
  obtain ⟨name, -, hname, rfl, -⟩ := afterBrace_eq_some_iff.1 h
  refine ⟨'\x7b', name ++ ['\x7d'], by simp, by decide, ?_, honly⟩
  refine List.forall_mem_append.2
    ⟨fun c hc => ?_, List.forall_mem_singleton.2 ⟨by decide, by decide⟩⟩
  obtain ⟨hslash, hbrace, -⟩ := stopsName_eq_false_iff.1 (hname c hc)
  exact ⟨hslash, hbrace⟩

theorem ne_of_isNameChar {c : Char} (h : isNameChar c = true) : c ≠ '/' ∧ c ≠ '\x7b' := by
  constructor <;> (rintro rfl; exact absurd h (by decide))

theorem covers_colon {before rest tail : List Char} {p : Placeholder}
    (hbefore : before = [] ∨ before.getLast? = some '/') (h : afterColon rest = some (p, tail)) :
    Covers before p tail (':' :: rest) := by
  have honly : ∀ q, Stands before (':' :: rest) q ↔ q = p := by
    intro q
    rw [stands_colon_iff, h]
    simp [hbefore, eq_comm]
  obtain ⟨c, name, hc, hname, -, rfl, -⟩ := afterColon_eq_some_iff.1 h
  refine ⟨':', c :: name, by simp, by decide, ?_, honly⟩
  exact List.forall_mem_cons.2 ⟨ne_of_isNameChar (isNameChar_of_isNameStart hc),
    fun d hd => ne_of_isNameChar (hname d hd)⟩

/-! ## Steps of the search -/

/-- The listed placeholders are those that stand in a text, with another text before it. -/
def Finds (before s : List Char) (ps : List Placeholder) : Prop :=
  ∃ found, found.map Prod.snd = ps ∧ Located (before ++ s) before.length found

theorem Finds.skip {before rest : List Char} {c : Char} {ps : List Placeholder}
    (h : Finds (before ++ [c]) rest ps) (hnone : ∀ p, ¬ Stands before (c :: rest) p) :
    Finds before (c :: rest) ps := by
  obtain ⟨found, hps, hlocated⟩ := h
  refine ⟨found, hps, Located.skip (by simpa using hlocated) fun p hp => ?_⟩
  exact hnone p (standsAt_append.1 hp)

/-- What stands here comes first, if all that stands behind it is found. -/
theorem Covers.finds {before tail s : List Char} {p : Placeholder} {ps : List Placeholder}
    (h : Covers before p tail s)
    (hbehind : ∀ front, front ≠ [] → front.getLast? ≠ some '/' → Finds front tail ps) :
    Finds before s (p :: ps) := by
  obtain ⟨c, piece, rfl, hslash, hpiece, honly⟩ := h
  have hlast : (before ++ c :: piece).getLast? ≠ some '/' := by
    rw [List.getLast?_append_of_ne_nil _ (List.cons_ne_nil c piece)]
    intro hmem
    obtain hmem | hmem := List.mem_cons.1 (List.mem_of_getLast? hmem)
    · exact hslash hmem.symm
    · exact (hpiece _ hmem).1 rfl
  obtain ⟨found, hps, hlocated⟩ := hbehind (before ++ c :: piece) (by simp) hlast
  refine ⟨(before.length, p) :: found, by rw [List.map_cons, hps], Located.cons ?_ ?_⟩
  · have hbehind : Located (before ++ [c] ++ (piece ++ tail))
        ((before ++ [c]).length + piece.length) found := by
      simpa [Nat.add_assoc, Nat.add_comm 1] using hlocated
    have hpass := hbehind.pass _ piece ⟨by simp, by simpa using hslash⟩ hpiece
    simpa using hpass
  · intro q
    rw [standsAt_append]
    exact honly q

theorem Covers.length_lt {before tail s : List Char} {p : Placeholder}
    (h : Covers before p tail s) : tail.length < s.length := by
  obtain ⟨c, piece, rfl, -⟩ := h
  simp only [List.length_cons, List.length_append]
  omega

/-- A search of so many steps finds what stands in a text of fewer characters. The search looks at a
colon behind a slash from the slash; so when it comes to such a colon, nothing stands there. -/
def Searches (rounds : Nat) : Prop :=
  ∀ {start : Bool} {before s : List Char}, s.length < rounds → (start = true ↔ before = []) →
    (before.getLast? = some '/' → ∀ rest, s = ':' :: rest → afterColon rest = none) →
    Finds before s (scan rounds start s)

theorem scan_of_some {start : Bool} {c : Char} {rest tail : List Char} {p : Placeholder}
    (h : here start (c :: rest) = some (p, tail)) (rounds : Nat) :
    scan (rounds + 1) start (c :: rest) = p :: scan rounds false tail := by
  rw [scan, h]

theorem scan_of_none {start : Bool} {c : Char} {rest : List Char}
    (h : here start (c :: rest) = none) (rounds : Nat) :
    scan (rounds + 1) start (c :: rest) = scan rounds false rest := by
  rw [scan, h]

theorem here_brace (start : Bool) (rest : List Char) :
    here start ('\x7b' :: rest) = afterBrace rest := rfl

theorem here_colon_start (rest : List Char) : here true (':' :: rest) = afterColon rest := rfl

theorem here_colon_inside (rest : List Char) : here false (':' :: rest) = none := rfl

theorem here_slash_colon (start : Bool) (rest : List Char) :
    here start ('/' :: ':' :: rest) = afterColon rest := rfl

theorem here_slash_other {rest : List Char} (h : ∀ r, rest ≠ ':' :: r) (start : Bool) :
    here start ('/' :: rest) = none := by
  unfold here
  split
  · next heq => cases heq
  · next r heq => cases heq; exact absurd rfl (h r)
  · next heq => cases heq
  · rfl

theorem here_other {c : Char} (hbrace : c ≠ '\x7b') (hslash : c ≠ '/') (hcolon : c ≠ ':')
    (start : Bool) (rest : List Char) : here start (c :: rest) = none := by
  unfold here
  split
  · next heq => cases heq; exact absurd rfl hbrace
  · next heq => cases heq; exact absurd rfl hslash
  · next heq => cases heq; exact absurd rfl hcolon
  · rfl

namespace Searches

/-- Behind a placeholder the search is no longer at the start, and not behind a slash. -/
theorem covers {rounds : Nat} (h : Searches rounds) {before tail s : List Char} {p : Placeholder}
    (hs : s.length ≤ rounds) (hcovers : Covers before p tail s) :
    Finds before s (p :: scan rounds false tail) := by
  refine hcovers.finds fun front hne hlast => ?_
  exact h (Nat.lt_of_lt_of_le hcovers.length_lt hs) (iff_of_false Bool.false_ne_true hne)
    fun hslash => absurd hslash hlast

/-- A character at which nothing stands is passed over. -/
theorem passes {rounds : Nat} (h : Searches rounds) {before rest : List Char} {c : Char}
    (hs : rest.length < rounds) (hnone : ∀ p, ¬ Stands before (c :: rest) p)
    (hslash : c = '/' → ∀ r, rest = ':' :: r → afterColon r = none) :
    Finds before (c :: rest) (scan rounds false rest) :=
  (h hs (by simp) fun hlast => hslash (by simpa using hlast)).skip hnone

theorem brace {rounds : Nat} (h : Searches rounds) {rest : List Char} (hs : rest.length < rounds)
    (start : Bool) (before : List Char) :
    Finds before ('\x7b' :: rest) (scan (rounds + 1) start ('\x7b' :: rest)) := by
  cases hread : afterBrace rest with
  | none =>
    rw [scan_of_none ((here_brace ..).trans hread)]
    exact h.passes hs (fun p hp => by simp [stands_brace_iff, hread] at hp) (by simp)
  | some found =>
    rw [scan_of_some ((here_brace ..).trans hread)]
    exact h.covers hs (covers_brace hread before)

theorem colon {rounds : Nat} (h : Searches rounds) {start : Bool} {before rest : List Char}
    (hs : rest.length < rounds) (hstart : start = true ↔ before = [])
    (hseen : before.getLast? = some '/' → afterColon rest = none) :
    Finds before (':' :: rest) (scan (rounds + 1) start (':' :: rest)) := by
  by_cases hbefore : before = []
  · rw [hstart.2 hbefore]
    cases hread : afterColon rest with
    | none =>
      rw [scan_of_none ((here_colon_start rest).trans hread)]
      exact h.passes hs (fun p hp => by simp [stands_colon_iff, hread] at hp) (by simp)
    | some found =>
      rw [scan_of_some ((here_colon_start rest).trans hread)]
      exact h.covers hs (covers_colon (.inl hbefore) hread)
  · have hinside : start = false := by simpa using mt hstart.1 hbefore
    rw [hinside, scan_of_none (here_colon_inside rest)]
    refine h.passes hs (fun p hp => ?_) (by simp)
    obtain ⟨hsegment, tail, hread⟩ := stands_colon_iff.1 hp
    rw [hseen (hsegment.resolve_left hbefore)] at hread
    cases hread

theorem slash {rounds : Nat} (h : Searches rounds) {rest : List Char} (hs : rest.length < rounds)
    (start : Bool) (before : List Char) :
    Finds before ('/' :: rest) (scan (rounds + 1) start ('/' :: rest)) := by
  have hnone : ∀ p, ¬ Stands before ('/' :: rest) p := fun p => not_stands (by decide) (by decide)
  by_cases hsegment : ∃ r, rest = ':' :: r
  · obtain ⟨r, rfl⟩ := hsegment
    cases hread : afterColon r with
    | none =>
      rw [scan_of_none ((here_slash_colon ..).trans hread)]
      refine h.passes hs hnone fun _ r' hr => ?_
      cases hr
      exact hread
    | some found =>
      rw [scan_of_some ((here_slash_colon ..).trans hread)]
      have hcovers : Covers (before ++ ['/']) found.1 found.2 (':' :: r) :=
        covers_colon (.inr (by simp)) hread
      exact (h.covers (Nat.le_of_lt hs) hcovers).skip hnone
  · have hother : ∀ r, rest ≠ ':' :: r := fun r hr => hsegment ⟨r, hr⟩
    rw [scan_of_none (here_slash_other hother start)]
    exact h.passes hs hnone fun _ r hr => absurd hr (hother r)

/-- One more step. -/
theorem succ {rounds : Nat} (h : Searches rounds) : Searches (rounds + 1) := by
  intro start before s hs hstart hseen
  cases s with
  | nil => exact ⟨[], rfl, by simpa using Located.nil before⟩
  | cons c rest =>
    have hrest : rest.length < rounds := Nat.lt_of_succ_lt_succ hs
    by_cases hbrace : c = '\x7b'
    · subst hbrace
      exact h.brace hrest start before
    by_cases hcolon : c = ':'
    · subst hcolon
      exact h.colon hrest hstart fun hlast => hseen hlast rest rfl
    by_cases hslash : c = '/'
    · subst hslash
      exact h.slash hrest start before
    · rw [scan_of_none (here_other hbrace hslash hcolon start rest)]
      exact h.passes hrest (fun p => not_stands hbrace hcolon) fun hc => absurd hc hslash

end Searches

theorem searches (rounds : Nat) : Searches rounds := by
  induction rounds with
  | zero => exact fun hs => absurd hs (Nat.not_lt_zero _)
  | succ rounds ih => exact ih.succ

/-- **Every placeholder once, in order, and nothing else.** The placeholders of a path, with the places
at which they stand. -/
theorem placeholders_exact (path : String) :
    ∃ found : List (Nat × Placeholder), found.map Prod.snd = placeholders path ∧
      (found.map Prod.fst).Pairwise (· < ·) ∧
      ∀ i p, ((i, p) ∈ found ↔ StandsAt path.toList i p) ∧
        ((i, p) ∈ found → p.literal.toList <+: path.toList.drop i) := by
  have hrounds : path.toList.length < path.length + 1 := by
    rw [String.length_toList]
    exact Nat.lt_succ_self _
  have hfinds : Finds [] path.toList (placeholders path) :=
    searches (path.length + 1) hrounds (by simp) nofun
  obtain ⟨found, hscan, hlocated⟩ := hfinds
  have hmem : ∀ i p, (i, p) ∈ found ↔ StandsAt path.toList i p := by
    intro i p
    rw [hlocated.mem_iff]
    exact and_iff_right (Nat.zero_le i)
  exact ⟨found, hscan, hlocated.ordered, fun i p =>
    ⟨hmem i p, fun h => ((hmem i p).1 h).starts_with_literal⟩⟩

/-- Names side by side, a colon inside a name, braces inside braces. -/
example : (placeholders "/:a/\x7bb\x7d\x7bc:d\x7d/\x7b\x7be\x7d/x:y").map (·.literal) =
    [":a", "\x7bb\x7d", "\x7bc:d\x7d", "\x7be\x7d"] := by decide

end ApiConsole.Placeholder
