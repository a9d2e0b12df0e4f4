import ApiConsole.Proofs.Request.Compose
import ApiConsole.Proofs.Text.AsciiCase
import ApiConsole.Proofs.Url.Parser
import ApiConsole.Settings

/-!
# What composing leaves of a base

A base is trimmed by two rules: the reader of URLs drops controls and spaces at both ends, composing
drops blanks at both ends and slashes at the end. `cleaned_compose` says what a composed URL begins
with, and `cleaned_base` how that compares with the base as it is read on its own: it may lack
slashes and blanks at the end, and it may have controls there that the reader would have dropped.
-/
namespace ApiConsole

open Text Url

/-! ## Cleaning -/

/-- Whether a character is dropped at the ends of a URL. -/
def isEdge (c : Char) : Bool := c.toNat ≤ 0x20

/-- Whether a character is not dropped inside a URL. -/
def isKept (c : Char) : Bool := !(c == '\t' || c == '\n' || c == '\r')

theorem cleaned_eq (s : List Char) :
    cleaned s = (dropEndWhile isEdge (s.dropWhile isEdge)).filter isKept := rfl

theorem isKept_of {p : Char → Bool} (hp : ['\t', '\n', '\r'].all p = true) {c : Char}
    (h : p c = false) : isKept c = true := by
  have hne : ∀ d ∈ ['\t', '\n', '\r'], c ≠ d := by
    rintro d hd rfl
    rw [List.all_eq_true.1 hp c hd] at h
    cases h
  simp only [List.forall_mem_cons, List.not_mem_nil, false_imp_iff, implies_true, and_true] at hne
  simp [isKept, hne]

theorem isKept_of_not_blank {c : Char} (h : isBlank c = false) : isKept c = true :=
  isKept_of (by decide) h

theorem isKept_of_not_edge {c : Char} (h : isEdge c = false) : isKept c = true :=
  isKept_of (by decide) h

/-- What a composed URL takes over from a base, as the reader of URLs sees it. -/
def keptBase (base : String) : List Char :=
  ((normalizeBase base).toList.dropWhile isEdge).filter isKept

theorem toList_normalizeBase (base : String) :
    (normalizeBase base).toList = dropEndWhile (· == '/') (trim base.toList) := String.toList_ofList

/-- A composed URL begins with what is left of the base and a slash. -/
theorem cleaned_compose (base path query : String) :
    ∃ tail, cleaned (composeUrl base path query).toList = keptBase base ++ '/' :: tail := by
  obtain ⟨tail, htail⟩ : ∃ tail, (composeUrl base path query).toList =
      (normalizeBase base).toList ++ '/' :: tail := by
    rw [composeUrl_eq, String.toList_append, String.toList_append, normalizePath,
      String.toList_ofList]
    exact ⟨_, by rw [List.append_assoc, List.cons_append]⟩
  have hslash : isEdge '/' = false := by decide
  have hhead : ∀ c ∈ ('/' :: tail).head?, isEdge c = false := by
    rintro c ⟨⟩
    exact hslash
  refine ⟨(dropEndWhile isEdge tail).filter isKept, ?_⟩
  rw [cleaned_eq, htail, dropWhile_append_of_head hhead, dropEndWhile_append_cons hslash,
    List.filter_append, List.filter_cons_of_pos (by decide)]
  rfl

/-- A letter behind the edges of a text does not stand in a part without letters. -/
theorem dropWhile_append_of_alpha {s t : List Char} (hs : ∀ c ∈ s, c.isAlpha = false)
    (h : ∃ c ∈ ((s ++ t).dropWhile isEdge).head?, c.isAlpha = true) :
    (s ++ t).dropWhile isEdge = t.dropWhile isEdge := by
  by_cases hnil : s.dropWhile isEdge = []
  · rw [List.dropWhile_append, if_pos (by simp [hnil])]
  · obtain ⟨c, hc, halpha⟩ := h
    rw [List.dropWhile_append, if_neg (by simpa using hnil),
      List.head?_append_of_ne_nil _ hnil] at hc
    have hmem := (List.dropWhile_suffix isEdge).subset (List.mem_of_mem_head? hc)
    rw [hs c hmem] at halpha
    cases halpha

/-- Where cleaning leaves a letter at the start, a letter is what stands there behind the edges. -/
theorem head_of_cleaned {s : List Char} (h : ∃ c ∈ (cleaned s).head?, c.isAlpha = true) :
    ∃ c ∈ (s.dropWhile isEdge).head?, c.isAlpha = true := by
  obtain ⟨c, hc, halpha⟩ := h
  refine ⟨c, ?_, halpha⟩
  rw [cleaned_eq] at hc
  cases hs : s.dropWhile isEdge with
  | nil => simp [hs, dropEndWhile] at hc
  | cons d rest =>
    have hd : isEdge d = false := head?_dropWhile (s := s) (by rw [hs]; rfl)
    have hfirst := dropEndWhile_append_cons hd [] rest
    rw [List.nil_append, List.nil_append] at hfirst
    rw [hs, hfirst, List.filter_cons_of_pos (isKept_of_not_edge hd)] at hc
    exact hc

theorem not_isAlpha_of_extra {c : Char} (h : c = '/' ∨ isBlank c = true) : c.isAlpha = false := by
  by_contra halpha
  rw [Bool.not_eq_false] at halpha
  rcases h with rfl | h
  · exact absurd halpha (by decide)
  · rw [isBlank_of_isAlpha halpha] at h
    cases h

/-- Behind the edges of a base stands what is left of it, with its slashes and blanks at the end. -/
theorem exists_extra {base : String} (h : ∃ c ∈ (cleaned base.toList).head?, c.isAlpha = true) :
    ∃ slashes post, (∀ c ∈ slashes, c = '/') ∧ (∀ c ∈ post, isBlank c = true) ∧
      trim base.toList = (normalizeBase base).toList ++ slashes ∧
      (normalizeBase base).toList.dropWhile isEdge ≠ [] ∧
      base.toList.dropWhile isEdge =
        (normalizeBase base).toList.dropWhile isEdge ++ (slashes ++ post) := by
  obtain ⟨pre, post, hpre, hpost, hbase⟩ := exists_pad base.toList
  obtain ⟨slashes, hslashes, htrim⟩ := exists_dropEndWhile (· == '/') (trim base.toList)
  rw [← toList_normalizeBase] at htrim
  have hslash : ∀ c ∈ slashes, c = '/' := fun c hc => by simpa using hslashes c hc
  have hwhole : base.toList = pre ++ ((normalizeBase base).toList ++ (slashes ++ post)) := by
    conv_lhs => rw [hbase, htrim]
    simp
  have halpha := head_of_cleaned h
  rw [hwhole] at halpha
  have hskip :=
    dropWhile_append_of_alpha (fun c hc => not_isAlpha_of_extra (.inr (hpre c hc))) halpha
  rw [hskip] at halpha
  have hne : (normalizeBase base).toList.dropWhile isEdge ≠ [] := by
    intro hnil
    obtain ⟨c, hc, halpha⟩ := halpha
    rw [List.dropWhile_append, if_pos (by simp [hnil])] at hc
    have hmem := (List.dropWhile_suffix isEdge).subset (List.mem_of_mem_head? hc)
    have hextra : c = '/' ∨ isBlank c = true :=
      (List.mem_append.1 hmem).imp (hslash c) (hpost c)
    rw [not_isAlpha_of_extra hextra] at halpha
    cases halpha
  refine ⟨slashes, post, hslash, hpost, htrim, hne, ?_⟩
  rw [hwhole, hskip, List.dropWhile_append, if_neg (by simpa using hne)]

/-- A slash at the end of a base, or a blank there that the reader keeps, keeps all before it. -/
theorem cleaned_base_of_kept {base : String} {m extra : List Char}
    (hm : base.toList.dropWhile isEdge = m ++ extra) (hkeeps : ∃ c ∈ extra, isEdge c = false) :
    cleaned base.toList = m.filter isKept ++ (dropEndWhile isEdge extra).filter isKept ∧
      (dropEndWhile isEdge extra).filter isKept ≠ [] := by
  constructor
  · rw [cleaned_eq, hm, dropEndWhile_append_of_exists hkeeps, List.filter_append]
  · obtain ⟨c, hc, hedge⟩ := hkeeps
    obtain ⟨before, after, rfl⟩ := List.append_of_mem hc
    rw [dropEndWhile_append_cons hedge, List.filter_append,
      List.filter_cons_of_pos (isKept_of_not_edge hedge)]
    simp

/-- Without anything to keep them, edges at the end of a base are dropped where it is read. -/
theorem exists_cleaned_base {base : String} {m extra : List Char}
    (hm : base.toList.dropWhile isEdge = m ++ extra) (hedges : ∀ c ∈ extra, isEdge c = true) :
    ∃ ends, (∀ c ∈ ends, isEdge c = true) ∧ m = dropEndWhile isEdge m ++ ends ∧
      m.filter isKept = cleaned base.toList ++ ends.filter isKept := by
  obtain ⟨ends, hends, hsplit⟩ := exists_dropEndWhile isEdge m
  refine ⟨ends, hends, hsplit, ?_⟩
  rw [cleaned_eq, hm, dropEndWhile_append hedges]
  conv_lhs => rw [hsplit]
  exact List.filter_append ..

/-- **What is left of a base is the base as it is read on its own**, but for slashes and blanks at
the end that it may lack, and controls that it may have there. -/
theorem cleaned_base {base : String} (h : ∃ c ∈ (cleaned base.toList).head?, c.isAlpha = true) :
    (∃ extra, (∀ c ∈ extra, c = '/' ∨ isBlank c = true) ∧
      cleaned base.toList = keptBase base ++ extra ∧
      (extra = [] → ∀ c ∈ (normalizeBase base).toList.getLast?, isEdge c = false)) ∨
    ∃ extra c, (∀ d ∈ extra ++ [c], d.toNat ≤ 0x20) ∧ c ∈ (normalizeBase base).toList.getLast? ∧
      keptBase base = cleaned base.toList ++ (extra ++ [c]) := by
  obtain ⟨slashes, post, hslashes, hpost, htrim, hne, hfront⟩ := exists_extra h
  unfold keptBase
  generalize hm : (normalizeBase base).toList.dropWhile isEdge = m at hfront hne
  have hlast : ∀ c ∈ m.getLast?, c ∈ (normalizeBase base).toList.getLast? := by
    intro c hc
    rw [← hm] at hc
    exact getLast?_dropWhile hc
  by_cases hkeeps : ∃ c ∈ slashes ++ post, isEdge c = false
  · obtain ⟨hcleaned, hextra⟩ := cleaned_base_of_kept hfront hkeeps
    refine .inl ⟨_, fun c hc => ?_, hcleaned, fun hnil => absurd hnil hextra⟩
    have hmem := (List.rdropWhile_prefix isEdge _).subset (List.mem_of_mem_filter hc)
    exact (List.mem_append.1 hmem).imp (hslashes c) (hpost c)
  · have hedges : ∀ c ∈ slashes ++ post, isEdge c = true := by simpa using hkeeps
    obtain ⟨ends, hends, hsplit, hcleaned⟩ := exists_cleaned_base hfront hedges
    rcases List.eq_nil_or_concat' ends with rfl | ⟨extra, c, rfl⟩
    · refine .inl ⟨[], by simp, by simp [hcleaned], fun _ c hc => ?_⟩
      obtain ⟨before, hbefore⟩ := List.dropWhile_suffix isEdge (l := (normalizeBase base).toList)
      rw [hm] at hbefore
      rw [← hbefore, List.getLast?_append_of_ne_nil _ hne, hsplit, List.append_nil] at hc
      exact getLast?_dropEndWhile hc
    · right
      -- Without a slash at the end the base is a trimmed text, which does not end in a blank.
      have hnone : slashes = [] := by
        cases slashes with
        | nil => rfl
        | cons d slashes =>
          obtain rfl := hslashes d (by simp)
          exact absurd (hedges '/' (by simp)) (by decide)
      have hend : c ∈ (normalizeBase base).toList.getLast? := hlast c (by rw [hsplit]; simp)
      have hkept : isKept c = true := by
        apply isKept_of_not_blank
        apply (trimmed_trim base.toList).last
        rwa [htrim, hnone, List.append_nil]
      refine ⟨extra.filter isKept, c, ?_, hend, by simp [hcleaned, hkept]⟩
      intro d hd
      have hmem : d ∈ extra ++ [c] :=
        (List.mem_append.1 hd).elim (fun hd => List.mem_append_left _ (List.mem_of_mem_filter hd))
          (List.mem_append_right _)
      simpa [isEdge] using hends d hmem

/-! ## The check -/

/-- A base that passes the check is a URL to which requests can be sent. -/
theorem exists_url_of_checkBaseUrl {base : String} (h : checkBaseUrl base = .ok ()) :
    ∃ u, parse base = .ok u ∧ u.isHttp = true := by
  unfold checkBaseUrl at h
  cases hparse : parse base with
  | error fault =>
    rw [hparse] at h
    cases h
  | ok u =>
    rw [hparse] at h
    refine ⟨u, rfl, ?_⟩
    by_contra hhttp
    simp only [if_neg hhttp] at h
    cases h

end ApiConsole
