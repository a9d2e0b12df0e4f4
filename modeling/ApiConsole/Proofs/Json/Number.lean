import ApiConsole.Json.Printer
import ApiConsole.Proofs.Json.Token
import Mathlib.Tactic.Common

/-!
# Reading back numbers

The reader of numbers stops where no number goes on: what it reads at the start of a text does not
depend on what follows, as long as that cannot continue a number (`number_append`).
-/
namespace ApiConsole.Json

open Decimal Text

variable {α : Type}

/-! ## What follows a number -/

/-- No number goes on with this text. -/
def EndsNumber (rest : List Symbol) : Prop :=
  ∀ x ∈ rest.head?, digit? x = none ∧ x ∉ "+-.eE".toList.map Symbol.char

/-- The result of a reader before a longer rest. -/
def followedBy (rest : List Symbol) (r : Option (α × List Symbol)) : Option (α × List Symbol) :=
  r.map fun p => (p.1, p.2 ++ rest)

/-- No digits go on with this text. -/
def EndsDigits (rest : List Symbol) : Prop := ∀ x ∈ rest.head?, digit? x = none

theorem endsNumber_nil : EndsNumber [] := nofun

theorem EndsNumber.endsDigits {rest : List Symbol} (h : EndsNumber rest) : EndsDigits rest :=
  fun x hx => (h x hx).1

theorem EndsNumber.cases {rest : List Symbol} (h : EndsNumber rest) :
    rest = [] ∨ ∃ x rest', rest = x :: rest' ∧ digit? x = none ∧
      x ∉ "+-.eE".toList.map Symbol.char := by
  cases rest with
  | nil => exact .inl rfl
  | cons x rest => exact .inr ⟨x, rest, rfl, h x rfl⟩

theorem digit?_le {x : Symbol} {d : Nat} (h : digit? x = some d) : d ≤ 9 := by
  cases x with
  | stray b => cases h
  | char c =>
    simp only [digit?, Option.ite_none_right_eq_some, Char.isDigit, Bool.and_eq_true,
      decide_eq_true_eq, UInt32.le_iff_toNat_le, Option.some.injEq] at h
    obtain ⟨⟨-, hc⟩, rfl⟩ := h
    have hc' : c.toNat ≤ 57 := hc
    omega

theorem spanDigits_of_ends {rest : List Symbol} (h : EndsDigits rest) :
    spanDigits rest = ([], rest) := by
  cases rest with
  | nil => rfl
  | cons x rest => simp [spanDigits, h x rfl]

theorem spanDigits_append {rest : List Symbol} (h : EndsDigits rest) (s : List Symbol) :
    spanDigits (s ++ rest) = ((spanDigits s).1, (spanDigits s).2 ++ rest) := by
  induction s with
  | nil => exact spanDigits_of_ends h
  | cons x s ih =>
    rw [List.cons_append, spanDigits, spanDigits]
    cases digit? x with
    | none => rfl
    | some d => simp [ih]

theorem exponentValue_append {rest : List Symbol} (h : EndsNumber rest) (e : Nat)
    (s : List Symbol) :
    exponentValue e (s ++ rest) = ((exponentValue e s).1, (exponentValue e s).2 ++ rest) := by
  induction s generalizing e with
  | nil =>
    obtain rfl | ⟨x, rest, rfl, hx, -⟩ := h.cases
    · rfl
    · simp [exponentValue, hx]
  | cons x s ih =>
    rw [List.cons_append, exponentValue, exponentValue]
    cases digit? x with
    | none => rfl
    | some d =>
      dsimp only
      split
      · exact ih _
      · rfl

theorem signedReal_append (negative : Bool) (x : Option Binary64) (s rest : List Symbol) :
    (signedReal negative x (s ++ rest)).toOption =
      followedBy rest (signedReal negative x s).toOption := by
  cases x <;> rfl

/-! ## The parts of a number -/

/-- Reads the sign of an exponent, which may be left out. -/
def exponentSign : List Symbol → Bool × List Symbol
  | .char '+' :: rest => (false, rest)
  | .char '-' :: rest => (true, rest)
  | s => (false, s)

/-- Reads the digits of an exponent. -/
def exponentDigits (negative down : Bool) (significand : Nat) (start : Int) : Reader Number
  | [] => Fault.before .endInValue []
  | x :: rest =>
    match digit? x with
    | none => Fault.onNext .invalidNumber (x :: rest)
    | some d =>
      match exponentValue d rest with
      | (some e, rest) =>
        signedReal negative (scaled significand (if down then start - e else start + e)) rest
      | (none, rest) =>
        if significand != 0 && !down then Fault.before .numberOutOfRange rest
        else .ok (.real (.zero negative), (spanDigits rest).2)

theorem readExponent_eq (negative : Bool) (significand : Nat) (start : Int) (s : List Symbol) :
    readExponent negative significand start s =
      exponentDigits negative (exponentSign s).1 significand start (exponentSign s).2 := by
  unfold readExponent
  split
  rename_i down s' heq
  have hsign : exponentSign s = (down, s') := heq
  rw [hsign]
  cases s' <;> rfl

/-- Whether a text begins with one of these characters. -/
def beginsWith (cs : List Char) (s : List Symbol) : Prop := ∃ c ∈ cs, ∃ rest, s = .char c :: rest

theorem EndsNumber.not_beginsWith {rest : List Symbol} (h : EndsNumber rest) (cs : List Char)
    (hcs : cs ⊆ "+-.eE".toList) : ¬beginsWith cs rest := by
  rintro ⟨c, hc, rest', rfl⟩
  exact (h _ rfl).2 (List.mem_map_of_mem (hcs hc))

/-- What a text begins with does not depend on a rest that begins otherwise. -/
theorem beginsWith_append_iff {cs : List Char} {rest : List Symbol} (h : ¬beginsWith cs rest)
    (s : List Symbol) : beginsWith cs (s ++ rest) ↔ beginsWith cs s := by
  cases s with
  | nil => exact iff_of_false h (by rintro ⟨_, _, _, ⟨⟩⟩)
  | cons x s => simp [beginsWith]

theorem exponentSign_other {s : List Symbol} (h : ¬beginsWith ['+', '-'] s) :
    exponentSign s = (false, s) := by
  unfold exponentSign
  split
  · exact absurd ⟨'+', by decide, _, rfl⟩ h
  · exact absurd ⟨'-', by decide, _, rfl⟩ h
  · rfl

theorem readScale_other {s : List Symbol} (h : ¬beginsWith ['e', 'E'] s) (negative : Bool)
    (significand : Nat) (exponent : Int) :
    readScale negative significand exponent s =
      signedReal negative (scaled significand exponent) s := by
  unfold readScale
  split
  · exact absurd ⟨'e', by decide, _, rfl⟩ h
  · exact absurd ⟨'E', by decide, _, rfl⟩ h
  · rfl

theorem readScale_letter {c : Char} (h : c ∈ ['e', 'E']) (negative : Bool) (significand : Nat)
    (exponent : Int) (s : List Symbol) :
    readScale negative significand exponent (.char c :: s) =
      readExponent negative significand exponent s := by
  simp only [List.mem_cons, List.not_mem_nil, or_false] at h
  obtain rfl | rfl := h <;> rfl

theorem readTail_letter {c : Char} (h : c ∈ ['e', 'E']) (negative : Bool) (m dropped : Nat)
    (s : List Symbol) :
    readTail negative m dropped (.char c :: s) = readExponent negative m dropped s := by
  simp only [List.mem_cons, List.not_mem_nil, or_false] at h
  obtain rfl | rfl := h <;> cases dropped <;> rfl

theorem readTail_other {s : List Symbol} (h : ¬beginsWith ['.', 'e', 'E'] s) (negative : Bool)
    (m dropped : Nat) :
    readTail negative m dropped s =
      if dropped = 0 then .ok (integerNumber negative m, s)
      else signedReal negative (scaled m dropped) s := by
  unfold readTail
  split
  · exact absurd ⟨'.', by decide, _, rfl⟩ h
  · split
    · exact absurd ⟨'e', by decide, _, rfl⟩ h
    · exact absurd ⟨'E', by decide, _, rfl⟩ h
    · rfl
    · rfl

theorem number_zero {x : Symbol} (hx : digit? x = some 0) {s : List Symbol}
    (h : EndsDigits s) (negative : Bool) :
    number negative (x :: s) = readTail negative 0 0 s := by
  unfold number
  simp only [hx]
  cases s with
  | nil => rfl
  | cons y s => simp [h y rfl]

/-- A leading zero stands alone in front of the point. -/
theorem number_zero_digit {x : Symbol} (hx : digit? x = some 0) {s : List Symbol}
    (h : ¬EndsDigits s) (negative : Bool) :
    (number negative (x :: s)).toOption = none := by
  unfold number
  simp only [hx]
  cases s with
  | nil => exact absurd nofun h
  | cons y s =>
    have hy : (digit? y).isSome = true := by
      rw [Option.isSome_iff_ne_none]
      rintro hnone
      exact h (by rintro _ ⟨⟩; exact hnone)
    simp only [hy]
    rfl

theorem number_digits {x : Symbol} {d : Nat} (hx : digit? x = some (d + 1)) (negative : Bool)
    (s : List Symbol) :
    number negative (x :: s) =
      readTail negative (appendDigits (d + 1) (spanDigits s).1).1
        (appendDigits (d + 1) (spanDigits s).1).2.length (spanDigits s).2 := by
  unfold number
  simp only [hx]

/-! ## What follows a number does not matter -/

theorem exponentSign_append {rest : List Symbol} (h : EndsNumber rest) (s : List Symbol) :
    exponentSign (s ++ rest) = ((exponentSign s).1, (exponentSign s).2 ++ rest) := by
  have hrest := h.not_beginsWith ['+', '-'] (by decide)
  by_cases hs : beginsWith ['+', '-'] s
  · obtain ⟨c, hc, s, rfl⟩ := hs
    simp only [List.mem_cons, List.not_mem_nil, or_false] at hc
    obtain rfl | rfl := hc <;> rfl
  · rw [exponentSign_other hs, exponentSign_other (mt (beginsWith_append_iff hrest s).1 hs)]

theorem exponentDigits_append {rest : List Symbol} (h : EndsNumber rest) (negative down : Bool)
    (significand : Nat) (start : Int) (s : List Symbol) :
    (exponentDigits negative down significand start (s ++ rest)).toOption =
      followedBy rest (exponentDigits negative down significand start s).toOption := by
  cases s with
  | nil =>
    obtain rfl | ⟨x, rest, rfl, hx, -⟩ := h.cases
    · rfl
    · simp only [List.nil_append, exponentDigits, hx]
      rfl
  | cons x s =>
    rw [List.cons_append, exponentDigits, exponentDigits]
    cases digit? x with
    | none => rfl
    | some d =>
      dsimp only
      rw [exponentValue_append h]
      generalize exponentValue d s = r
      obtain ⟨_ | e, s⟩ := r
      · dsimp only
        split
        · rfl
        · rw [spanDigits_append h.endsDigits]; rfl
      · exact signedReal_append _ _ _ _

theorem readExponent_append {rest : List Symbol} (h : EndsNumber rest) (negative : Bool)
    (significand : Nat) (start : Int) (s : List Symbol) :
    (readExponent negative significand start (s ++ rest)).toOption =
      followedBy rest (readExponent negative significand start s).toOption := by
  rw [readExponent_eq, readExponent_eq, exponentSign_append h]
  exact exponentDigits_append h ..

theorem readScale_append {rest : List Symbol} (h : EndsNumber rest) (negative : Bool)
    (significand : Nat) (exponent : Int) (s : List Symbol) :
    (readScale negative significand exponent (s ++ rest)).toOption =
      followedBy rest (readScale negative significand exponent s).toOption := by
  have hrest := h.not_beginsWith ['e', 'E'] (by decide)
  by_cases hs : beginsWith ['e', 'E'] s
  · obtain ⟨c, hc, s, rfl⟩ := hs
    rw [List.cons_append, readScale_letter hc, readScale_letter hc]
    exact readExponent_append h ..
  · rw [readScale_other hs, readScale_other (mt (beginsWith_append_iff hrest s).1 hs)]
    exact signedReal_append ..

theorem readFraction_append {rest : List Symbol} (h : EndsNumber rest) (negative : Bool)
    (significand : Nat) (exponent : Int) (s : List Symbol) :
    (readFraction negative significand exponent (s ++ rest)).toOption =
      followedBy rest (readFraction negative significand exponent s).toOption := by
  unfold readFraction
  rw [spanDigits_append h.endsDigits]
  generalize spanDigits s = r
  obtain ⟨digits, s⟩ := r
  dsimp only
  by_cases hd : digits.isEmpty = true
  · rw [if_pos hd, if_pos hd]
    split <;> split <;> rfl
  · rw [if_neg hd, if_neg hd]
    exact readScale_append h ..

theorem readTail_append {rest : List Symbol} (h : EndsNumber rest) (negative : Bool)
    (m dropped : Nat) (s : List Symbol) :
    (readTail negative m dropped (s ++ rest)).toOption =
      followedBy rest (readTail negative m dropped s).toOption := by
  have hrest := h.not_beginsWith ['.', 'e', 'E'] (by decide)
  by_cases hs : beginsWith ['.', 'e', 'E'] s
  · obtain ⟨c, hc, s, rfl⟩ := hs
    rw [List.mem_cons] at hc
    obtain rfl | hc := hc
    · exact readFraction_append h ..
    · rw [List.cons_append, readTail_letter hc, readTail_letter hc]
      exact readExponent_append h ..
  · rw [readTail_other hs, readTail_other (mt (beginsWith_append_iff hrest s).1 hs)]
    split
    · rfl
    · exact signedReal_append ..

/-- **What follows a number does not matter to it.** -/
theorem number_append {rest : List Symbol} (h : EndsNumber rest) (negative : Bool)
    (s : List Symbol) :
    (number negative (s ++ rest)).toOption = followedBy rest (number negative s).toOption := by
  cases s with
  | nil =>
    obtain rfl | ⟨x, rest, rfl, hx, -⟩ := h.cases
    · rfl
    · simp only [List.nil_append, number, hx]
      rfl
  | cons x s =>
    rw [List.cons_append]
    cases hx : digit? x with
    | none => simp only [number, hx]; rfl
    | some d =>
      cases d with
      | zero =>
        have hhead : EndsDigits (s ++ rest) ↔ EndsDigits s := by
          cases s with
          | nil => exact iff_of_true h.endsDigits nofun
          | cons y s => rfl
        by_cases hs : EndsDigits s
        · rw [number_zero hx hs, number_zero hx (hhead.2 hs)]
          exact readTail_append h ..
        · rw [number_zero_digit hx hs, number_zero_digit hx (mt hhead.1 hs)]
          rfl
      | succ d =>
        rw [number_digits hx, number_digits hx, spanDigits_append h.endsDigits]
        exact readTail_append h ..

end ApiConsole.Json
