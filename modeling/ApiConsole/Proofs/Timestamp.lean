import ApiConsole.Proofs.Json.Numeral
import ApiConsole.Proofs.Text.Trim
import ApiConsole.Timestamp

/-!
# Reading timestamps back

The text of a point in time is read as that point (`parse_text`), for all the years that are written
with four digits and for every nanosecond of them. A field of digits is read up to the mark behind
it (`number_digits`); the decimals of a second come back whatever groups of three were left out
(`readFraction_text`).
-/
namespace ApiConsole.Timestamp

open Json (AreDigits areDigits_append areDigits_zeros areDigits_toDigits ne_of_isDigit)
open Text (isBlank trimStart isBlank_of_isDigit)

/-- A date that the calendar has in the years 0 to 9999, and a time of day outside a leap second. -/
structure InCalendar (t : Timestamp) : Prop where
  year : 0 ≤ t.year ∧ t.year ≤ 9999
  month : 1 ≤ t.month ∧ t.month ≤ 12
  day : 1 ≤ t.day ∧ t.day ≤ daysInMonth t.year t.month
  hour : t.hour < 24
  minute : t.minute < 60
  second : t.second < 60
  nanos : t.nanos < 1000000000

theorem daysInMonth_le (year : Int) (month : Nat) : daysInMonth year month ≤ 31 := by
  unfold daysInMonth
  repeat' split
  all_goals omega

/-! ## Fields of digits -/

theorem areDigits_digits (width n : Nat) : AreDigits (digits width n) :=
  areDigits_append.2 ⟨areDigits_zeros _, areDigits_toDigits n⟩

theorem length_digits {width n : Nat} (hwidth : 0 < width) (h : n < 10 ^ width) :
    (digits width n).length = width := by
  have hlength := (Nat.length_toDigits_le_iff (by decide) hwidth).2 h
  simp only [digits, List.length_append, List.length_replicate]
  omega

theorem digits_eq_cons (width n : Nat) : ∃ c r, digits width n = c :: r ∧ c.isDigit = true := by
  cases hdigits : digits width n with
  | nil => exact absurd (List.append_eq_nil_iff.1 hdigits).2 Nat.toDigits_ne_nil
  | cons c r =>
    have hall := areDigits_digits width n
    exact ⟨c, r, rfl, hall c (by rw [hdigits]; exact List.mem_cons_self)⟩

/-- Leading zeros do not count. -/
theorem value_digits (width n : Nat) :
    (digits width n).foldl (fun n c => n * 10 + digitValue c) 0 = n := by
  have hzeros : ∀ k, (List.replicate k '0').foldl (fun n c => n * 10 + digitValue c) 0 = 0 := by
    intro k
    induction k with
    | zero => rfl
    | succ k ih => exact ih
  have hstep : (fun n c => n * 10 + digitValue c) =
      fun (n : Nat) (c : Char) => 10 * n + (c.toNat - '0'.toNat) := by
    funext n c
    rw [Nat.mul_comm]
    rfl
  rw [digits, List.foldl_append, hzeros, hstep, ← Nat.ofDigitChars_eq_foldl,
    Nat.ofDigitChars_ten_toDigits]

theorem trimStart_digits (width n : Nat) (rest : List Char) :
    trimStart (digits width n ++ rest) = digits width n ++ rest := by
  obtain ⟨c, r, hcons, hc⟩ := digits_eq_cons width n
  rw [hcons]
  exact List.dropWhile_cons_of_neg (by simp [isBlank_of_isDigit hc])

/-- **A field of digits is read up to what follows it**, by a reader that takes that many. -/
theorem number_digits {width n : Nat} (hwidth : 0 < width) (h : n < 10 ^ width) (limit : Nat)
    (hlimit : width ≤ limit) {c : Char} (hc : c.isDigit = false) (rest : List Char) :
    number limit (digits width n ++ c :: rest) = .ok (n, c :: rest) := by
  have hlength := length_digits hwidth h
  have hrun : ((digits width n ++ c :: rest).take limit).takeWhile Char.isDigit =
      digits width n := by
    have hend : ((c :: rest).take (limit - width)).takeWhile Char.isDigit = [] := by
      cases limit - width with
      | zero => rfl
      | succ k => exact List.takeWhile_cons_of_neg (by simp [hc])
    rw [List.take_append, hlength, List.take_of_length_le (by omega),
      List.takeWhile_append_of_pos (areDigits_digits width n), hend, List.append_nil]
  obtain ⟨d, r, hcons, -⟩ := digits_eq_cons width n
  have hdrop : (digits width n ++ c :: rest).drop (digits width n).length = c :: rest :=
    List.drop_left
  unfold number
  simp only [hrun, value_digits, hdrop]
  rw [hcons]
  rfl

/-! ## Parts of a text -/

theorem readYear_digits {n : Nat} (h : n ≤ 9999) {c : Char} (hc : c.isDigit = false)
    (rest : List Char) : readYear (digits 4 n ++ c :: rest) = .ok ((n : Int), c :: rest) := by
  have hnumber := number_digits (by decide) (show n < 10 ^ 4 by omega) 4 (by decide) hc rest
  obtain ⟨d, r, hcons, hd⟩ := digits_eq_cons 4 n
  have hminus : d ≠ '-' := ne_of_isDigit hd rfl
  have hplus : d ≠ '+' := ne_of_isDigit hd rfl
  unfold readYear
  rw [trimStart_digits]
  rw [hcons] at hnumber ⊢
  split
  · rename_i heq
    cases heq
    exact absurd rfl hminus
  · rename_i heq
    cases heq
    exact absurd rfl hplus
  · rw [hnumber]
    have hrange :
        ¬(decide ((n : Int) < -2147483648) || decide (2147483647 < (n : Int))) = true := by
      simp only [Bool.or_eq_true, decide_eq_true_eq]
      omega
    exact if_neg hrange

theorem boundedNumber_digits {low high n : Nat} (hlow : low ≤ n) (hhigh : n ≤ high)
    (hbound : high < 100) {c : Char} (hc : c.isDigit = false) (rest : List Char) :
    boundedNumber low high (digits 2 n ++ c :: rest) = .ok (n, c :: rest) := by
  have hnumber := number_digits (by decide) (show n < 10 ^ 2 by omega) 2 (by decide) hc rest
  have hrange : (decide (low ≤ n) && decide (n ≤ high)) = true := by simp [hlow, hhigh]
  unfold boundedNumber
  rw [trimStart_digits, hnumber]
  exact if_pos hrange

theorem mark_cons {c : Char} (h : isBlank c = false) (rest : List Char) :
    mark c (c :: rest) = .ok rest := by
  have htrim : trimStart (c :: rest) = c :: rest := List.dropWhile_cons_of_neg (by simp [h])
  rw [mark, htrim]
  exact if_pos (beq_self_eq_true c)

/-- The decimals of a second, in a field of any width, are a number of nanoseconds. -/
theorem readFraction_digits {width n : Nat} (hwidth : 0 < width) (hnine : width ≤ 9)
    (h : n < 10 ^ width) {c : Char} (hc : c.isDigit = false) (rest : List Char) :
    readFraction ('.' :: (digits width n ++ c :: rest)) =
      .ok (n * 10 ^ (9 - width), c :: rest) := by
  have hdrop : (c :: rest).dropWhile Char.isDigit = c :: rest :=
    List.dropWhile_cons_of_neg (by simp [hc])
  have hlength : (digits width n ++ c :: rest).length - (c :: rest).length = width := by
    rw [List.length_append, length_digits hwidth h, Nat.add_sub_cancel]
  rw [readFraction, number_digits hwidth h 9 hnine hc rest]
  change Except.ok (n * 10 ^ (9 - ((digits width n ++ c :: rest).length - (c :: rest).length)),
    (c :: rest).dropWhile Char.isDigit) = _
  rw [hlength, hdrop]

theorem readFraction_text {nanos : Nat} (h : nanos < 1000000000) :
    readFraction (fractionText nanos ++ ['Z']) = .ok (nanos, ['Z']) := by
  have hz : 'Z'.isDigit = false := rfl
  simp only [fractionText, beq_iff_eq]
  split
  · next hzero =>
    subst hzero
    rfl
  split
  · next hmillis =>
    have hread := readFraction_digits (by decide) (by decide)
      (show nanos / 1000000 < 10 ^ 3 by omega) hz []
    rwa [show nanos / 1000000 * 10 ^ (9 - 3) = nanos by omega] at hread
  split
  · next hmicros =>
    have hread := readFraction_digits (by decide) (by decide)
      (show nanos / 1000 < 10 ^ 6 by omega) hz []
    rwa [show nanos / 1000 * 10 ^ (9 - 6) = nanos by omega] at hread
  · have hread := readFraction_digits (by decide) (by decide) (show nanos < 10 ^ 9 by omega) hz []
    rwa [show nanos * 10 ^ (9 - 9) = nanos by omega] at hread

/-- What follows the seconds begins with no digit. -/
theorem exists_fraction (nanos : Nat) :
    ∃ c r, fractionText nanos ++ ['Z'] = c :: r ∧ c.isDigit = false := by
  unfold fractionText
  repeat' split
  · exact ⟨'Z', [], rfl, rfl⟩
  all_goals exact ⟨'.', _, rfl, rfl⟩

/-! ## Whole texts -/

theorem toList_text {t : Timestamp} (h : t.InCalendar) :
    t.text.toList = digits 4 t.year.toNat ++ '-' :: (digits 2 t.month ++ '-' ::
      (digits 2 t.day ++ 'T' :: (digits 2 t.hour ++ ':' :: (digits 2 t.minute ++ ':' ::
        (digits 2 t.second ++ (fractionText t.nanos ++ ['Z'])))))) := by
  have hyear : yearText t.year = digits 4 t.year.toNat := by
    rw [yearText, if_pos (by simp [h.year])]
  rw [text, String.toList_ofList]
  simp [secondText, dateText, hyear]

theorem dateExists_of_inCalendar {t : Timestamp} (h : t.InCalendar) :
    dateExists t.year t.month t.day = true := by
  have hyear := h.year
  have hday := h.day.2
  simp only [dateExists, Bool.and_eq_true, decide_eq_true_eq]
  omega

/-- **The text of a timestamp is read as that timestamp.** -/
theorem parse_text {t : Timestamp} (h : t.InCalendar) : parse t.text = .ok t := by
  obtain ⟨c, r, hfraction, hc⟩ := exists_fraction t.nanos
  have hyear := readYear_digits (n := t.year.toNat) (by have := h.year; omega) (c := '-') rfl
  have hmonth := boundedNumber_digits h.month.1 h.month.2 (by decide) (c := '-') rfl
  have hday := boundedNumber_digits h.day.1
    (Nat.le_trans h.day.2 (daysInMonth_le t.year t.month)) (by decide) (c := 'T') rfl
  have hhour := boundedNumber_digits (Nat.zero_le t.hour) (Nat.le_of_lt_succ h.hour : _ ≤ 23)
    (by decide) (c := ':') rfl
  have hminute := boundedNumber_digits (Nat.zero_le t.minute) (Nat.le_of_lt_succ h.minute : _ ≤ 59)
    (by decide) (c := ':') rfl
  have hsecond := boundedNumber_digits (Nat.zero_le t.second) (Nat.le_of_lt h.second) (by decide) hc r
  have hnanos := readFraction_text h.nanos
  have hdash : ∀ rest, mark '-' ('-' :: rest) = .ok rest := mark_cons (by decide)
  have hcolon : ∀ rest, mark ':' (':' :: rest) = .ok rest := mark_cons (by decide)
  have htime : ∀ rest, timeMark ('T' :: rest) = .ok rest := fun _ => rfl
  have hzone : readZone ['Z'] = .ok (0, []) := rfl
  have hexists := dateExists_of_inCalendar h
  rw [hfraction] at hnanos
  unfold parse
  rw [toList_text h, hfraction, hyear, Int.toNat_of_nonneg h.year.1]
  simp only [bind, Except.bind, hdash, hmonth, hday, hcolon, hhour, hminute, hsecond, htime, hnanos,
    hzone, hexists]
  rfl

end ApiConsole.Timestamp
