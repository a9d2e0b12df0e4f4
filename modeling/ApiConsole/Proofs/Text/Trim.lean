import ApiConsole.Text.Basic
import Mathlib.Data.List.DropRight

/-!
# Trimmed texts

A text is trimmed if neither of its ends is a blank. `trim` gives such a text (`trimmed_trim`) and
leaves it as it is (`Trimmed.trim_eq`), whatever blanks are put around it (`trim_pad`). A line is a
word, the first blank behind it and the rest (`splitBlank_word`).
-/
namespace ApiConsole.Text

theorem isBlank_of_isDigit {c : Char} (h : c.isDigit = true) : isBlank c = false := by
  have hdigit : 48 ≤ c.toNat ∧ c.toNat ≤ 57 := by
    simpa [Char.isDigit, UInt32.le_iff_toNat_le] using h
  simp only [isBlank, Bool.or_eq_false_iff, Bool.and_eq_false_iff, decide_eq_false_iff_not,
    beq_eq_false_iff_ne]
  omega

/-- That a given text holds no blank is found out by looking through it. -/
theorem not_blank_of_all {s : List Char} (h : s.all (!isBlank ·) = true) :
    ∀ c ∈ s, isBlank c = false := by
  simpa using h

/-- Neither end of a text is a blank. -/
structure Trimmed (s : List Char) : Prop where
  head : ∀ c ∈ s.head?, isBlank c = false
  last : ∀ c ∈ s.getLast?, isBlank c = false

theorem Trimmed.of_all {s : List Char} (h : ∀ c ∈ s, isBlank c = false) : Trimmed s :=
  ⟨fun c hc => h c (List.mem_of_mem_head? hc), fun c hc => h c (List.mem_of_mem_getLast? hc)⟩

/-- A trimmed text with more text in front of its end. -/
theorem Trimmed.append {s t : List Char} (hs : Trimmed s) (ht : Trimmed t) (hne : s ≠ [])
    (hnt : t ≠ []) (mid : List Char) : Trimmed (s ++ mid ++ t) := by
  constructor
  · intro c hc
    rw [List.append_assoc, List.head?_append_of_ne_nil _ hne] at hc
    exact hs.head c hc
  · intro c hc
    rw [List.getLast?_append_of_ne_nil _ hnt] at hc
    exact ht.last c hc

/-! ## Dropping at the ends -/

theorem head?_dropWhile {p : Char → Bool} {s : List Char} {c : Char}
    (h : c ∈ (s.dropWhile p).head?) : p c = false := by
  have := List.head?_dropWhile_not p s
  rw [Option.mem_def.1 h] at this
  exact this

theorem getLast?_dropEndWhile {p : Char → Bool} {s : List Char} {c : Char}
    (h : c ∈ (dropEndWhile p s).getLast?) : p c = false := by
  unfold dropEndWhile at h
  rw [List.getLast?_reverse] at h
  exact head?_dropWhile h

/-- Dropping at the start keeps the end, unless nothing is left. -/
theorem getLast?_dropWhile {p : Char → Bool} {s : List Char} {c : Char}
    (h : c ∈ (s.dropWhile p).getLast?) : c ∈ s.getLast? := by
  obtain ⟨before, hs⟩ := List.dropWhile_suffix p (l := s)
  have hne : s.dropWhile p ≠ [] := by
    rintro hnil
    simp [hnil] at h
  rw [← hs, List.getLast?_append_of_ne_nil _ hne]
  exact h

/-- Dropping at the end keeps the start, unless nothing is left. -/
theorem head?_dropEndWhile {p : Char → Bool} {s : List Char} {c : Char}
    (h : c ∈ (dropEndWhile p s).head?) : c ∈ s.head? := by
  unfold dropEndWhile at h
  rw [List.head?_reverse] at h
  have := getLast?_dropWhile h
  rwa [List.getLast?_reverse] at this

theorem dropEndWhile_eq_self {p : Char → Bool} {s : List Char}
    (h : ∀ c ∈ s.getLast?, p c = false) : dropEndWhile p s = s := by
  refine List.rdropWhile_eq_self_iff.2 fun hne => ?_
  simp [h _ (List.getLast?_eq_some_getLast hne)]

theorem dropWhile_eq_self {p : Char → Bool} {s : List Char} (h : ∀ c ∈ s.head?, p c = false) :
    s.dropWhile p = s := by
  cases s with
  | nil => rfl
  | cons c s => exact List.dropWhile_cons_of_neg (by simp [h c rfl])

/-- A run of characters is cut off where it ends. -/
theorem cut_append {p : Char → Bool} {s t : List Char} (hs : ∀ c ∈ s, p c = true)
    (ht : ∀ c ∈ t.head?, p c = false) :
    (s ++ t).takeWhile p = s ∧ (s ++ t).dropWhile p = t := by
  rw [List.takeWhile_append_of_pos hs, List.dropWhile_append_of_pos hs, dropWhile_eq_self ht]
  cases t with
  | nil => simp
  | cons c t => simp [ht c rfl]

theorem dropEndWhile_append {p : Char → Bool} {post : List Char} (h : ∀ c ∈ post, p c = true)
    (s : List Char) : dropEndWhile p (s ++ post) = dropEndWhile p s := by
  unfold dropEndWhile
  rw [List.reverse_append, List.dropWhile_append_of_pos (by simpa using h)]

/-- Dropping at the start stops at a character that is kept. -/
theorem dropWhile_append_of_head {p : Char → Bool} {t : List Char} (h : ∀ c ∈ t.head?, p c = false)
    (s : List Char) : (s ++ t).dropWhile p = s.dropWhile p ++ t := by
  rw [List.dropWhile_append]
  split
  · next hs => rw [List.isEmpty_iff.1 hs, dropWhile_eq_self h, List.nil_append]
  · rfl

/-- Dropping at the end stops at a character that is kept. -/
theorem dropEndWhile_append_cons {p : Char → Bool} {c : Char} (hc : p c = false)
    (s t : List Char) : dropEndWhile p (s ++ c :: t) = s ++ c :: dropEndWhile p t := by
  have hrev : (s ++ c :: t).reverse = t.reverse ++ c :: s.reverse := by simp
  have hhead : ∀ d ∈ (c :: s.reverse).head?, p d = false := by
    rintro d ⟨⟩
    exact hc
  unfold dropEndWhile
  rw [hrev, dropWhile_append_of_head hhead]
  simp

/-- What stands in front of a character that is kept at the end is kept as well. -/
theorem dropEndWhile_append_of_exists {p : Char → Bool} {t : List Char}
    (h : ∃ c ∈ t, p c = false) (s : List Char) :
    dropEndWhile p (s ++ t) = s ++ dropEndWhile p t := by
  obtain ⟨c, hc, hp⟩ := h
  obtain ⟨before, after, rfl⟩ := List.append_of_mem hc
  rw [← List.append_assoc, dropEndWhile_append_cons hp, dropEndWhile_append_cons hp,
    List.append_assoc]

/-- A text is what is left of it and what was dropped at its end. -/
theorem exists_dropEndWhile (p : Char → Bool) (s : List Char) :
    ∃ post, (∀ c ∈ post, p c = true) ∧ s = dropEndWhile p s ++ post := by
  have hend := List.takeWhile_append_dropWhile (p := p) (l := s.reverse)
  refine ⟨(s.reverse.takeWhile p).reverse, ?_, ?_⟩
  · intro c hc
    exact List.mem_takeWhile_imp (List.mem_reverse.1 hc)
  · have hrev := congrArg List.reverse hend
    rw [List.reverse_append, List.reverse_reverse] at hrev
    exact hrev.symm

/-! ## Trimming -/

theorem trimmed_trim (s : List Char) : Trimmed (trim s) :=
  ⟨fun _ hc => head?_dropWhile (head?_dropEndWhile hc), fun _ hc => getLast?_dropEndWhile hc⟩

theorem Trimmed.trim_eq {s : List Char} (h : Trimmed s) : trim s = s := by
  unfold trim trimEnd trimStart
  rw [dropWhile_eq_self h.head, dropEndWhile_eq_self h.last]

theorem trim_eq_self_iff {s : List Char} : trim s = s ↔ Trimmed s :=
  ⟨fun h => h ▸ trimmed_trim s, Trimmed.trim_eq⟩

@[simp] theorem trim_trim (s : List Char) : trim (trim s) = trim s := (trimmed_trim s).trim_eq

theorem length_trim_le (s : List Char) : (trim s).length ≤ s.length := by
  have hend := (List.rdropWhile_prefix isBlank (trimStart s)).length_le
  have hstart := (List.dropWhile_suffix isBlank (l := s)).length_le
  exact Nat.le_trans hend hstart

/-- Blanks around a text do not matter. -/
theorem trim_pad {pre post : List Char} (hpre : ∀ c ∈ pre, isBlank c = true)
    (hpost : ∀ c ∈ post, isBlank c = true) (s : List Char) : trim (pre ++ s ++ post) = trim s := by
  unfold trim trimEnd trimStart
  rw [List.append_assoc, List.dropWhile_append_of_pos hpre, List.dropWhile_append]
  by_cases hs : (s.dropWhile isBlank).isEmpty
  · rw [if_pos hs, List.isEmpty_iff.1 hs, List.dropWhile_eq_nil_iff.2 hpost]
  · rw [if_neg hs, dropEndWhile_append hpost]

theorem trim_pad_left {pre : List Char} (hpre : ∀ c ∈ pre, isBlank c = true) (s : List Char) :
    trim (pre ++ s) = trim s := by
  simpa using trim_pad hpre (List.forall_mem_nil _) s

theorem trim_pad_right {post : List Char} (hpost : ∀ c ∈ post, isBlank c = true) (s : List Char) :
    trim (s ++ post) = trim s := by
  simpa using trim_pad (List.forall_mem_nil _) hpost s

theorem trim_cons_blank {b : Char} (hb : isBlank b = true) (s : List Char) :
    trim (b :: s) = trim s := by
  unfold trim trimStart
  rw [List.dropWhile_cons_of_pos hb]

/-- A text without its blanks at the ends is the text between them. -/
theorem exists_pad (s : List Char) : ∃ pre post, (∀ c ∈ pre, isBlank c = true) ∧
    (∀ c ∈ post, isBlank c = true) ∧ s = pre ++ trim s ++ post := by
  have hstart := List.takeWhile_append_dropWhile (p := isBlank) (l := s)
  obtain ⟨post, hpost, hend⟩ := exists_dropEndWhile isBlank (trimStart s)
  refine ⟨s.takeWhile isBlank, post, fun c hc => List.mem_takeWhile_imp hc, hpost, ?_⟩
  rw [List.append_assoc]
  conv_lhs => rw [← hstart]
  exact congrArg _ hend

/-- What stands between the blanks at its ends stands in a text. -/
theorem trim_infix_self (s : List Char) : trim s <:+: s := by
  obtain ⟨pre, post, -, -, hs⟩ := exists_pad s
  exact ⟨pre, post, hs.symm⟩

/-- Trimming a text leaves each trimmed text inside it whole. -/
theorem Trimmed.infix_trim {u s : List Char} (hu : Trimmed u) (h : u <:+: s) : u <:+: trim s := by
  obtain ⟨a, b, rfl⟩ := h
  rcases List.eq_nil_or_concat' u with rfl | ⟨u, c, rfl⟩
  · exact List.nil_infix
  · have hc : isBlank c = false := hu.last c (by simp)
    have hhead : ∀ d ∈ ((u ++ [c]) ++ b).head?, isBlank d = false := by
      intro d hd
      rw [List.head?_append_of_ne_nil _ (by simp)] at hd
      exact hu.head d hd
    have hstart : trimStart (a ++ (u ++ [c]) ++ b) = trimStart a ++ ((u ++ [c]) ++ b) := by
      rw [List.append_assoc]
      exact dropWhile_append_of_head hhead a
    have hend : trimEnd ((trimStart a ++ u) ++ c :: b) = (trimStart a ++ u) ++ c :: trimEnd b :=
      dropEndWhile_append_cons hc _ _
    have hsplit : trimStart a ++ ((u ++ [c]) ++ b) = (trimStart a ++ u) ++ c :: b := by simp
    refine ⟨trimStart a, trimEnd b, ?_⟩
    rw [trim, hstart, hsplit, hend]
    simp

theorem trim_infix_trim {s t : List Char} (h : s <:+: t) : trim s <:+: trim t :=
  (trimmed_trim s).infix_trim ((trim_infix_self s).trans h)

/-- **Dropping characters other than blanks at the end gives the same with and without trimming
first** exactly if the text is trimmed. -/
theorem dropEndWhile_trim_eq_iff {p : Char → Bool} (hp : ∀ c, isBlank c = true → p c = false)
    {s : List Char} : dropEndWhile p s = dropEndWhile p (trim s) ↔ Trimmed s := by
  constructor
  · intro h
    obtain ⟨pre, post, hpre, hpost, hs⟩ := exists_pad s
    have hlength := congrArg List.length h
    have hshort := (List.rdropWhile_prefix p (trim s)).length_le
    change (dropEndWhile p (trim s)).length ≤ (trim s).length at hshort
    have hlong := congrArg List.length hs
    rw [List.length_append, List.length_append] at hlong
    rcases List.eq_nil_or_concat' post with rfl | ⟨post, b, rfl⟩
    · rcases List.eq_nil_or_concat' pre with rfl | ⟨pre, b, rfl⟩
      · rw [← trim_eq_self_iff]
        simpa using hs.symm
      · -- A blank in front of the text stays in front of what is left of it.
        have hb : p b = false := hp b (hpre b (by simp))
        have hkeep : s = pre ++ b :: trim s := by simpa using hs
        rw [hkeep, dropEndWhile_append_cons hb, ← hkeep] at hlength
        simp only [List.length_append, List.length_cons] at hlength
        omega
    · -- A blank at the end keeps all that stands in front of it.
      have hb : p b = false := hp b (hpost b (by simp))
      have hkeep : dropEndWhile p s = s := by
        refine dropEndWhile_eq_self fun c hc => ?_
        rw [hs, List.getLast?_append_of_ne_nil _ (by simp)] at hc
        obtain rfl : b = c := by simpa using hc
        exact hb
      rw [hkeep] at hlength
      simp only [List.length_append, List.length_cons, List.length_nil] at hlong
      omega
  · intro h
    rw [h.trim_eq]

/-! ## Words -/

/-- A word without blanks, and a text that the first blank cuts off it. -/
theorem splitBlank_word {word : List Char} (hword : ∀ c ∈ word, isBlank c = false)
    {b : Char} (hb : isBlank b = true) (rest : List Char) :
    splitBlank (word ++ b :: rest) = (word, rest) := by
  have hword' : ∀ c ∈ word, (!isBlank c) = true := by simpa using hword
  unfold splitBlank
  rw [List.takeWhile_append_of_pos hword', List.dropWhile_append_of_pos hword']
  simp [hb]

theorem splitBlank_of_no_blank {word : List Char} (hword : ∀ c ∈ word, isBlank c = false) :
    splitBlank word = (word, []) := by
  have hword' : ∀ c ∈ word, (!isBlank c) = true := by simpa using hword
  unfold splitBlank
  rw [List.takeWhile_eq_self_iff.2 hword', List.dropWhile_eq_nil_iff.2 hword']
  rfl

/-- Trimming a text that begins with a word keeps the word and what follows it, blanks apart. -/
theorem splitBlank_trim {word tail : List Char} (hne : word ≠ [])
    (hword : ∀ c ∈ word, isBlank c = false) (htail : ∀ c ∈ tail.head?, isBlank c = true) :
    (splitBlank (trim (word ++ tail))).1 = word ∧
      trim (splitBlank (trim (word ++ tail))).2 = trim tail := by
  have hw : Trimmed word := .of_all hword
  cases tail with
  | nil => rw [List.append_nil, hw.trim_eq, splitBlank_of_no_blank hword]; exact ⟨rfl, rfl⟩
  | cons b rest =>
    have hb : isBlank b = true := htail b rfl
    obtain ⟨pre, post, hpre, hpost, hrest⟩ := exists_pad rest
    have hbpre : ∀ c ∈ b :: pre, isBlank c = true := List.forall_mem_cons.2 ⟨hb, hpre⟩
    have htrim : trim (b :: rest) = trim rest := by
      conv_lhs => rw [hrest]
      have := trim_pad hbpre hpost (trim rest)
      rwa [trim_trim] at this
    by_cases hnil : trim rest = []
    · have hblank : ∀ c ∈ b :: rest, isBlank c = true := by
        rw [hrest, hnil, List.append_nil, ← List.cons_append]
        exact List.forall_mem_append.2 ⟨hbpre, hpost⟩
      have hall : trim (word ++ b :: rest) = word := by
        rw [trim_pad_right hblank, hw.trim_eq]
      rw [hall, splitBlank_of_no_blank hword, htrim, hnil]
      exact ⟨rfl, rfl⟩
    · have hkeep : trim (word ++ b :: rest) = word ++ b :: (pre ++ trim rest) := by
        have hfull := (hw.append (trimmed_trim rest) hne hnil (b :: pre)).trim_eq
        have hpad := trim_pad_right hpost (word ++ b :: pre ++ trim rest)
        rw [hfull] at hpad
        conv_lhs => rw [hrest]
        simpa using hpad
      rw [hkeep, splitBlank_word hword hb, htrim]
      exact ⟨rfl, (trim_pad_left hpre _).trans (trim_trim rest)⟩

end ApiConsole.Text
