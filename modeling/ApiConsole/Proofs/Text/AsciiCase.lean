import ApiConsole.Text.Basic
import ApiConsole.Text.Case
import Mathlib.Tactic.Common

/-!
# The case of ASCII letters

Two characters that agree up to the case of ASCII letters are equal or are both ASCII letters
(`eq_or_isAlpha`). What decides how a text is put into lower case, and what is a blank, does not see a
difference between such characters. So texts that agree up to the case of ASCII letters have the same
lower case (`lower_eq_of_ascii`), although the final sigma depends on the letters around it. It does so
only beyond ASCII: part of a text whose lower case is in ASCII has part of that as its lower case
(`lower_infix_lower`).
-/
namespace ApiConsole.Text

/-! ## Characters -/

theorem toNat_toLower (c : Char) :
    c.toLower.toNat = if 65 ≤ c.toNat ∧ c.toNat ≤ 90 then c.toNat + 32 else c.toNat := by
  have hupper : c.val ≥ 'A'.val ∧ c.val ≤ 'Z'.val ↔ 65 ≤ c.toNat ∧ c.toNat ≤ 90 := Iff.rfl
  unfold Char.toLower
  by_cases h : 65 ≤ c.toNat ∧ c.toNat ≤ 90
  · rw [dif_pos (hupper.2 h), if_pos h]
    show (c.val + ('a'.val - 'A'.val)).toNat = c.val.toNat + 32
    have hc : c.val.toNat ≤ 90 := h.2
    have hdist : ('a'.val - 'A'.val : UInt32).toNat = 32 := by decide
    rw [UInt32.toNat_add, hdist]
    omega
  · rw [dif_neg (fun hc => h (hupper.1 hc)), if_neg h]

theorem isAlpha_iff {c : Char} :
    c.isAlpha = true ↔ (65 ≤ c.toNat ∧ c.toNat ≤ 90) ∨ (97 ≤ c.toNat ∧ c.toNat ≤ 122) := by
  have hupper : c.isUpper = true ↔ 65 ≤ c.toNat ∧ c.toNat ≤ 90 := decide_eq_true_iff
  have hlower : c.isLower = true ↔ 97 ≤ c.toNat ∧ c.toNat ≤ 122 :=
    (Bool.and_eq_true_iff).trans (and_congr decide_eq_true_iff decide_eq_true_iff)
  exact (Bool.or_eq_true_iff).trans (or_congr hupper hlower)

/-- Characters that agree up to the case of ASCII letters. -/
theorem eq_or_isAlpha {c d : Char} (h : c.toLower = d.toLower) :
    c = d ∨ c.isAlpha = true ∧ d.isAlpha = true := by
  have hnat := congrArg Char.toNat h
  rw [toNat_toLower, toNat_toLower] at hnat
  by_cases hcd : c.toNat = d.toNat
  · exact .inl (Char.toNat_inj.1 hcd)
  · right
    rw [isAlpha_iff, isAlpha_iff]
    split at hnat <;> split at hnat <;> omega

/-- ASCII letters are not case-ignorable: all that is lies before, between or behind them. -/
theorem isCaseIgnorable_of_isAlpha {c : Char} (h : c.isAlpha = true) : isCaseIgnorable c = false := by
  have hranges : caseIgnorableRanges.all (fun r =>
      decide (r.2 < 65) || (decide (90 < r.1) && decide (r.2 < 97)) || decide (122 < r.1)) = true := by
    decide +kernel
  have hc := isAlpha_iff.1 h
  unfold isCaseIgnorable inRanges
  rw [List.any_eq_false]
  intro r hr
  have hr' := List.all_eq_true.1 hranges r hr
  simp only [Bool.or_eq_true, Bool.and_eq_true, decide_eq_true_eq] at hr' ⊢
  omega

theorem isBlank_of_isAlpha {c : Char} (h : c.isAlpha = true) : isBlank c = false := by
  have hascii : ∀ c : Char, 65 ≤ c.toNat → c.toNat ≤ 122 → isBlank c = false := by
    intro c hlow hhigh
    simp only [isBlank, Bool.or_eq_false_iff, Bool.and_eq_false_iff, decide_eq_false_iff_not,
      beq_eq_false_iff_ne]
    omega
  have hc := isAlpha_iff.1 h
  exact hascii c (by omega) (by omega)

theorem isCased_congr {c d : Char} (h : c.toLower = d.toLower) : isCased c = isCased d := by
  rcases eq_or_isAlpha h with rfl | ⟨hc, hd⟩
  · rfl
  · simp [isCased, hc, hd]

theorem isCaseIgnorable_congr {c d : Char} (h : c.toLower = d.toLower) :
    isCaseIgnorable c = isCaseIgnorable d := by
  rcases eq_or_isAlpha h with rfl | ⟨hc, hd⟩
  · rfl
  · rw [isCaseIgnorable_of_isAlpha hc, isCaseIgnorable_of_isAlpha hd]

theorem isBlank_congr {c d : Char} (h : c.toLower = d.toLower) : isBlank c = isBlank d := by
  rcases eq_or_isAlpha h with rfl | ⟨hc, hd⟩
  · rfl
  · rw [isBlank_of_isAlpha hc, isBlank_of_isAlpha hd]

theorem lowerChar_congr {c d : Char} (h : c.toLower = d.toLower) : lowerChar c = lowerChar d := by
  rcases eq_or_isAlpha h with rfl | ⟨hc, hd⟩
  · rfl
  · have hc' := isAlpha_iff.1 hc
    have hd' := isAlpha_iff.1 hd
    rw [lowerChar_ascii (by omega), lowerChar_ascii (by omega), h]

theorem beq_sigma_congr {c d : Char} (h : c.toLower = d.toLower) : (c == 'Σ') = (d == 'Σ') := by
  rcases eq_or_isAlpha h with rfl | ⟨hc, hd⟩
  · rfl
  · have hne : ∀ c : Char, c.isAlpha = true → (c == 'Σ') = false := by
      intro c hc
      rw [beq_eq_false_iff_ne]
      rintro rfl
      exact absurd hc (by decide)
    rw [hne c hc, hne d hd]

/-! ## Texts -/

/-- Two texts that agree up to the case of ASCII letters. -/
def SameUpToAsciiCase (s t : List Char) : Prop := s.map Char.toLower = t.map Char.toLower

theorem sameUpToAsciiCase_cons {c d : Char} {s t : List Char} :
    SameUpToAsciiCase (c :: s) (d :: t) ↔ c.toLower = d.toLower ∧ SameUpToAsciiCase s t := by
  simp [SameUpToAsciiCase]

/-- Such texts are made from empty ones, character by character. -/
theorem sameUpToAsciiCase_cases {s t : List Char} (h : SameUpToAsciiCase s t) :
    (s = [] ∧ t = []) ∨ ∃ c d s' t', s = c :: s' ∧ t = d :: t' ∧ c.toLower = d.toLower ∧
      SameUpToAsciiCase s' t' := by
  cases s with
  | nil =>
    cases t with
    | nil => exact .inl ⟨rfl, rfl⟩
    | cons d t => simp [SameUpToAsciiCase] at h
  | cons c s =>
    cases t with
    | nil => simp [SameUpToAsciiCase] at h
    | cons d t =>
      obtain ⟨hcd, hst⟩ := sameUpToAsciiCase_cons.1 h
      exact .inr ⟨c, d, s, t, rfl, rfl, hcd, hst⟩

theorem reachesCased_cons (c : Char) (s : List Char) :
    reachesCased (c :: s) = if isCaseIgnorable c then reachesCased s else isCased c := by
  unfold reachesCased
  by_cases hc : isCaseIgnorable c = true
  · rw [List.dropWhile_cons_of_pos hc, if_pos hc]
  · rw [List.dropWhile_cons_of_neg hc, if_neg hc]

theorem reachesCased_congr {s t : List Char} (h : SameUpToAsciiCase s t) :
    reachesCased s = reachesCased t := by
  induction s generalizing t with
  | nil =>
    rcases sameUpToAsciiCase_cases h with ⟨-, rfl⟩ | ⟨c, d, s', t', hs, -⟩
    · rfl
    · cases hs
  | cons c s ih =>
    rcases sameUpToAsciiCase_cases h with ⟨hs, -⟩ | ⟨_, d, _, t', ⟨⟩, rfl, hcd, hst⟩
    · cases hs
    · rw [reachesCased_cons, reachesCased_cons, isCaseIgnorable_congr hcd, isCased_congr hcd, ih hst]

/-- What stands in front of a text matters to its lower case up to the case of ASCII letters. -/
theorem lowerAfter_congr {before before' s t : List Char} (hb : SameUpToAsciiCase before before')
    (h : SameUpToAsciiCase s t) : lowerAfter before s = lowerAfter before' t := by
  induction s generalizing before before' t with
  | nil =>
    rcases sameUpToAsciiCase_cases h with ⟨-, rfl⟩ | ⟨c, d, s', t', hs, -⟩
    · rfl
    · cases hs
  | cons c s ih =>
    rcases sameUpToAsciiCase_cases h with ⟨hs, -⟩ | ⟨_, d, _, t', ⟨⟩, rfl, hcd, hst⟩
    · cases hs
    · have hb' : SameUpToAsciiCase (c :: before) (d :: before') :=
        sameUpToAsciiCase_cons.2 ⟨hcd, hb⟩
      rw [lowerAfter, lowerAfter, ih hb' hst, beq_sigma_congr hcd, reachesCased_congr hb,
        reachesCased_congr hst, lowerChar_congr hcd]

/-- **Lower case does not see the case of ASCII letters.** -/
theorem lower_eq_of_ascii {s t : List Char} (h : SameUpToAsciiCase s t) : lower s = lower t :=
  lowerAfter_congr rfl h

theorem allNotBlank_of_ascii {s t : List Char} (h : SameUpToAsciiCase s t)
    (hs : ∀ c ∈ s, isBlank c = false) : ∀ c ∈ t, isBlank c = false := by
  induction s generalizing t with
  | nil =>
    rcases sameUpToAsciiCase_cases h with ⟨-, rfl⟩ | ⟨c, d, s', t', hs', -⟩
    · nofun
    · cases hs'
  | cons c s ih =>
    rcases sameUpToAsciiCase_cases h with ⟨hs', -⟩ | ⟨_, d, _, t', ⟨⟩, rfl, hcd, hst⟩
    · cases hs'
    · rw [List.forall_mem_cons] at hs ⊢
      exact ⟨(isBlank_congr hcd) ▸ hs.1, ih hst hs.2⟩

/-- Trimming cuts both texts at the same places. -/
theorem trim_ascii {s t : List Char} (h : SameUpToAsciiCase s t) :
    SameUpToAsciiCase (trim s) (trim t) := by
  have hstart : ∀ {s t : List Char}, SameUpToAsciiCase s t →
      SameUpToAsciiCase (s.dropWhile isBlank) (t.dropWhile isBlank) := by
    intro s t h
    induction s generalizing t with
    | nil =>
      rcases sameUpToAsciiCase_cases h with ⟨-, rfl⟩ | ⟨c, d, s', t', hs, -⟩
      · exact h
      · cases hs
    | cons c s ih =>
      rcases sameUpToAsciiCase_cases h with ⟨hs, -⟩ | ⟨_, d, _, t', ⟨⟩, rfl, hcd, hst⟩
      · cases hs
      · by_cases hc : isBlank c = true
        · rw [List.dropWhile_cons_of_pos hc, List.dropWhile_cons_of_pos (isBlank_congr hcd ▸ hc)]
          exact ih hst
        · rw [List.dropWhile_cons_of_neg hc, List.dropWhile_cons_of_neg (isBlank_congr hcd ▸ hc)]
          exact h
  have hreverse : ∀ {s t : List Char}, SameUpToAsciiCase s t →
      SameUpToAsciiCase s.reverse t.reverse := by
    intro s t h
    unfold SameUpToAsciiCase at h ⊢
    rw [List.map_reverse, List.map_reverse, h]
  exact hreverse (hstart (hreverse (hstart h)))

/-! ## Lower case in ASCII -/

/-- Texts in ASCII. -/
def IsAscii (s : List Char) : Prop := ∀ c ∈ s, c.toNat < 0x80

/-- That a given text is in ASCII is found out by looking through it. -/
theorem isAscii_ofList {s : List Char} (h : s.all (·.toNat < 0x80) = true) :
    IsAscii (String.ofList s).toList := by
  rw [String.toList_ofList]
  exact fun c hc => of_decide_eq_true (List.all_eq_true.1 h c hc)

/-- Without a capital sigma, characters are put into lower case one by one. -/
theorem lowerAfter_eq_flatMap {s : List Char} (h : 'Σ' ∉ s) (before : List Char) :
    lowerAfter before s = s.flatMap lowerChar := by
  induction s generalizing before with
  | nil => rfl
  | cons c s ih =>
    rw [List.mem_cons, not_or] at h
    have hc : (c == 'Σ') = false := beq_eq_false_iff_ne.2 (Ne.symm h.1)
    rw [lowerAfter, hc, ih h.2]
    rfl

/-- Both forms of the small sigma lie beyond ASCII. -/
theorem sigma_not_mem_of_isAscii {before s : List Char} (h : IsAscii (lowerAfter before s)) :
    'Σ' ∉ s := by
  induction s generalizing before with
  | nil => exact List.not_mem_nil
  | cons c s ih =>
    rw [lowerAfter] at h
    have hrest := ih fun d hd => h d (List.mem_append_right _ hd)
    rw [List.mem_cons, not_or]
    refine ⟨?_, hrest⟩
    rintro rfl
    have hsigma := h _ (List.mem_append_left _ (List.mem_singleton_self _))
    split at hsigma <;> exact absurd hsigma (by decide)

theorem lower_eq_flatMap {s : List Char} (h : IsAscii (lower s)) :
    lower s = s.flatMap lowerChar :=
  lowerAfter_eq_flatMap (sigma_not_mem_of_isAscii h) []

theorem isAscii_lower {s : List Char} (h : IsAscii s) : IsAscii (lower s) := by
  have hsigma : 'Σ' ∉ s := fun hmem => absurd (h 'Σ' hmem) (by decide)
  intro c hc
  rw [lower, lowerAfter_eq_flatMap hsigma] at hc
  obtain ⟨d, hd, hc⟩ := List.mem_flatMap.1 hc
  have hlt := h d hd
  rw [lowerChar_ascii hlt, List.mem_singleton] at hc
  rw [hc, toNat_toLower]
  split <;> omega

/-- **Where a text has its lower case in ASCII, so has each part of it**, and the lower case of the
part stands in that of the text. Elsewhere a sigma that the text goes on behind may come out
differently at the end of the part. -/
theorem lower_infix_lower {s t : List Char} (hst : s <:+: t) (h : IsAscii (lower t)) :
    lower s <:+: lower t := by
  have ht := lower_eq_flatMap h
  have hsigma : 'Σ' ∉ s := fun hmem => sigma_not_mem_of_isAscii h (hst.subset hmem)
  obtain ⟨a, b, rfl⟩ := hst
  refine ⟨a.flatMap lowerChar, b.flatMap lowerChar, ?_⟩
  rw [ht, lower, lowerAfter_eq_flatMap hsigma, List.flatMap_append, List.flatMap_append]

end ApiConsole.Text
