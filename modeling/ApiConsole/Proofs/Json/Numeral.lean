import ApiConsole.Json.Printer
import ApiConsole.Proofs.Json.Formed
import Mathlib.Data.List.Basic

/-!
# The texts of numbers

A 64-bit integer is read back from its digits (`number_toDigits`). The text of a binary fraction is
digits with a point and an exponent, and the reader leaves nothing of such a text
(`number_consumes`); whether it gives the fraction back depends on the digits.
-/
namespace ApiConsole.Json

open Decimal Text

/-! ## Runs of digits -/

/-- Decimal digits only. -/
def AreDigits (s : List Char) : Prop := ∀ c ∈ s, c.isDigit = true

theorem areDigits_cons {c : Char} {s : List Char} :
    AreDigits (c :: s) ↔ c.isDigit = true ∧ AreDigits s := List.forall_mem_cons

theorem areDigits_append {s t : List Char} : AreDigits (s ++ t) ↔ AreDigits s ∧ AreDigits t :=
  List.forall_mem_append

theorem areDigits_zeros (n : Nat) : AreDigits (List.replicate n '0') := by
  intro c hc
  rw [List.eq_of_mem_replicate hc]
  rfl

theorem areDigits_toDigits (n : Nat) : AreDigits (Nat.toDigits 10 n) :=
  fun _ hc => Nat.isDigit_of_mem_toDigits (by decide) (by decide) hc

theorem digit?_of_isDigit {c : Char} (h : c.isDigit = true) :
    digit? (.char c) = some (c.toNat - 48) := by
  simp [digit?, h]

theorem spanDigits_symbolsOf {ds : List Char} (h : AreDigits ds) :
    spanDigits (symbolsOf ds) = (ds.map (·.toNat - 48), []) := by
  induction ds with
  | nil => rfl
  | cons c ds ih =>
    rw [areDigits_cons] at h
    simp [spanDigits, digit?_of_isDigit h.1, ih h.2]

theorem spanDigits_run {ds : List Char} (h : AreDigits ds) {rest : List Symbol}
    (hrest : EndsDigits rest) :
    spanDigits (symbolsOf ds ++ rest) = (ds.map (·.toNat - 48), rest) := by
  rw [spanDigits_append hrest, spanDigits_symbolsOf h, List.nil_append]

/-! ## Integers -/

/-- The first digit of a positive number is not zero. -/
theorem toDigits_head {n : Nat} (h : 0 < n) : ∀ c ∈ (Nat.toDigits 10 n).head?, c.toNat - 48 ≠ 0 := by
  induction n using Nat.strongRecOn with
  | ind n ih =>
    by_cases hn : n < 10
    · have hall : ∀ n < 10, 0 < n → (Nat.digitChar n).toNat - 48 ≠ 0 := by decide
      rw [Nat.toDigits_of_lt_base hn]
      rintro c ⟨⟩
      exact hall n hn h
    · have hn' : 10 ≤ n := Nat.not_lt.1 hn
      rw [Nat.toDigits_of_base_le (by decide) hn', List.head?_append_of_ne_nil _ Nat.toDigits_ne_nil]
      exact ih (n / 10) (by omega) (by omega)

theorem appendDigits_of_le {m : Nat} {ds : List Char}
    (h : Nat.ofDigitChars 10 ds m ≤ greatestWord) :
    appendDigits m (ds.map (·.toNat - 48)) = (Nat.ofDigitChars 10 ds m, []) := by
  induction ds generalizing m with
  | nil => rfl
  | cons c ds ih =>
    have hstep : Nat.ofDigitChars 10 (c :: ds) m =
        Nat.ofDigitChars 10 ds (m * 10 + (c.toNat - 48)) := by
      rw [Nat.ofDigitChars_cons, Nat.mul_comm]
      rfl
    have hgrow : ∀ (ds : List Char) (m : Nat), m ≤ Nat.ofDigitChars 10 ds m := by
      intro ds
      induction ds with
      | nil => intro m; exact Nat.le_refl m
      | cons c ds ih =>
        intro m
        rw [Nat.ofDigitChars_cons]
        exact Nat.le_trans (by omega) (ih _)
    rw [hstep] at h ⊢
    rw [List.map_cons, appendDigits, if_pos (Nat.le_trans (hgrow ds _) h)]
    exact ih h

/-- **An integer that fits is read back from its digits.** -/
theorem number_toDigits (negative : Bool) {n : Nat} (h : n ≤ greatestWord) :
    number negative (symbolsOf (Nat.toDigits 10 n)) = .ok (integerNumber negative n, []) := by
  obtain rfl | hpos := Nat.eq_zero_or_pos n
  · rfl
  · have hvalue := Nat.ofDigitChars_ten_toDigits (n := n)
    have hdigits := areDigits_toDigits n
    have hhead := toDigits_head hpos
    generalize Nat.toDigits 10 n = ds at hvalue hdigits hhead
    cases ds with
    | nil => exact absurd hvalue (Nat.ne_of_lt hpos)
    | cons c ds =>
      rw [areDigits_cons] at hdigits
      obtain ⟨d, hd⟩ := Nat.exists_eq_succ_of_ne_zero (hhead c rfl)
      have hvalue' : Nat.ofDigitChars 10 ds (d + 1) = n := by
        rw [← hvalue, Nat.ofDigitChars_cons, Nat.mul_zero, Nat.zero_add]
        exact congrArg _ hd.symm
      have hx : digit? (.char c) = some (d + 1) := by rw [digit?_of_isDigit hdigits.1, hd]
      have hfits : Nat.ofDigitChars 10 ds (d + 1) ≤ greatestWord := by rwa [hvalue']
      have happend := appendDigits_of_le hfits
      rw [symbolsOf_cons, number_digits hx, spanDigits_symbolsOf hdigits.2]
      dsimp only
      rw [happend, hvalue', List.length_nil, readTail_other (by rintro ⟨_, _, _, ⟨⟩⟩), if_pos rfl]

/-! ## Fractions -/

/-- A reader that leaves nothing if it succeeds. -/
def Consumes {α : Type} (r : Except Fault (α × List Symbol)) : Prop :=
  ∀ a rest, r = .ok (a, rest) → rest = []

/-- The letter, sign and digits of an exponent, or nothing. -/
def IsScale (t : List Char) : Prop :=
  t = [] ∨ ∃ sign ∈ ['+', '-'], ∃ ds, AreDigits ds ∧ t = 'e' :: sign :: ds

/-- What may follow the integer digits of a number. -/
def IsNumberTail (t : List Char) : Prop :=
  IsScale t ∨ ∃ ds scale, AreDigits ds ∧ IsScale scale ∧ t = '.' :: ds ++ scale

theorem signedReal_consumes (negative : Bool) (x : Option Binary64) :
    Consumes (signedReal negative x []) := by
  intro a rest h
  cases x with
  | none => cases h
  | some x => cases h; rfl

theorem exponentValue_symbolsOf {ds : List Char} (h : AreDigits ds) (e : Nat) :
    (∃ e', exponentValue e (symbolsOf ds) = (some e', [])) ∨
      ∃ ds', AreDigits ds' ∧ exponentValue e (symbolsOf ds) = (none, symbolsOf ds') := by
  induction ds generalizing e with
  | nil => exact .inl ⟨e, rfl⟩
  | cons c ds ih =>
    rw [areDigits_cons] at h
    rw [symbolsOf_cons, exponentValue, digit?_of_isDigit h.1]
    dsimp only
    split
    · exact ih h.2 _
    · exact .inr ⟨ds, h.2, rfl⟩

theorem exponentDigits_consumes {ds : List Char} (h : AreDigits ds) (negative down : Bool)
    (m : Nat) (start : Int) :
    Consumes (exponentDigits negative down m start (symbolsOf ds)) := by
  cases ds with
  | nil => intro a rest h; cases h
  | cons c ds =>
    rw [areDigits_cons] at h
    rw [symbolsOf_cons, exponentDigits, digit?_of_isDigit h.1]
    dsimp only
    obtain ⟨e, he⟩ | ⟨ds', hds', he⟩ := exponentValue_symbolsOf h.2 (c.toNat - 48)
    · rw [he]
      exact signedReal_consumes _ _
    · rw [he]
      dsimp only
      split
      · intro a rest h; cases h
      · rw [spanDigits_symbolsOf hds']
        intro a rest h
        cases h
        rfl

theorem readExponent_consumes {ds : List Char} (h : AreDigits ds) {sign : Char}
    (hsign : sign ∈ ['+', '-']) (negative : Bool) (m : Nat) (start : Int) :
    Consumes (readExponent negative m start (symbolsOf (sign :: ds))) := by
  rw [readExponent_eq]
  simp only [List.mem_cons, List.not_mem_nil, or_false] at hsign
  obtain rfl | rfl := hsign <;> exact exponentDigits_consumes h _ _ _ _

theorem readScale_consumes {t : List Char} (h : IsScale t) (negative : Bool) (m : Nat) (e : Int) :
    Consumes (readScale negative m e (symbolsOf t)) := by
  obtain rfl | ⟨sign, hsign, ds, hds, rfl⟩ := h
  · exact signedReal_consumes _ _
  · exact readExponent_consumes hds hsign _ _ _

theorem IsScale.endsDigits {t : List Char} (h : IsScale t) : EndsDigits (symbolsOf t) := by
  obtain rfl | ⟨sign, hsign, ds, hds, rfl⟩ := h
  · nofun
  · rintro x ⟨⟩; rfl

theorem readFraction_consumes {ds scale : List Char} (hds : AreDigits ds) (hscale : IsScale scale)
    (negative : Bool) (m : Nat) (e : Int) :
    Consumes (readFraction negative m e (symbolsOf (ds ++ scale))) := by
  unfold readFraction
  rw [symbolsOf_append, spanDigits_run hds hscale.endsDigits]
  dsimp only
  split
  · split <;> (intro a rest h; cases h)
  · exact readScale_consumes hscale _ _ _

theorem readTail_consumes {t : List Char} (h : IsNumberTail t) (negative : Bool) (m dropped : Nat) :
    Consumes (readTail negative m dropped (symbolsOf t)) := by
  obtain (rfl | ⟨sign, hsign, ds, hds, rfl⟩) | ⟨ds, scale, hds, hscale, rfl⟩ := h
  · rw [symbolsOf_nil, readTail_other (by rintro ⟨_, _, _, ⟨⟩⟩)]
    split
    · intro a rest h; cases h; rfl
    · exact signedReal_consumes _ _
  · rw [symbolsOf_cons, readTail_letter (by decide)]
    exact readExponent_consumes hds hsign _ _ _
  · exact readFraction_consumes hds hscale _ _ _

theorem IsNumberTail.endsDigits {t : List Char} (h : IsNumberTail t) : EndsDigits (symbolsOf t) := by
  obtain h | ⟨ds, scale, hds, hscale, rfl⟩ := h
  · exact h.endsDigits
  · rintro x ⟨⟩; rfl

/-- **Nothing is left of digits with a point and an exponent.** -/
theorem number_consumes {ds tail : List Char} (hds : AreDigits ds) (htail : IsNumberTail tail)
    (hne : ds ≠ []) (negative : Bool) :
    Consumes (number negative (symbolsOf (ds ++ tail))) := by
  cases ds with
  | nil => exact absurd rfl hne
  | cons c ds =>
    rw [areDigits_cons] at hds
    have hx := digit?_of_isDigit hds.1
    rw [List.cons_append, symbolsOf_cons]
    cases hd : c.toNat - 48 with
    | zero =>
      rw [hd] at hx
      cases ds with
      | nil =>
        rw [List.nil_append, number_zero hx htail.endsDigits]
        exact readTail_consumes htail _ _ _
      | cons d ds =>
        have hmore : ¬EndsDigits (symbolsOf (d :: ds ++ tail)) := by
          intro h
          have := h _ rfl
          rw [digit?_of_isDigit (areDigits_cons.1 hds.2).1] at this
          cases this
        have hfault := number_zero_digit hx hmore negative
        intro a rest h
        rw [h] at hfault
        cases hfault
    | succ d =>
      rw [hd] at hx
      rw [number_digits hx, symbolsOf_append, spanDigits_run hds.2 htail.endsDigits]
      exact readTail_consumes htail _ _ _

/-- Digits, and what may follow them. -/
def IsNumeral (t : List Char) : Prop :=
  ∃ ds tail, AreDigits ds ∧ ds ≠ [] ∧ IsNumberTail tail ∧ t = ds ++ tail

theorem isNumeral_toDigits (n : Nat) : IsNumeral (Nat.toDigits 10 n) :=
  ⟨_, [], areDigits_toDigits n, Nat.toDigits_ne_nil, .inl (.inl rfl), (List.append_nil _).symm⟩

theorem isNumeral_point {ds fraction : List Char} (hds : AreDigits ds) (hne : ds ≠ [])
    (hfraction : AreDigits fraction) : IsNumeral (ds ++ '.' :: fraction) :=
  ⟨ds, '.' :: fraction, hds, hne, .inr ⟨fraction, [], hfraction, .inl rfl, by simp⟩, rfl⟩

/-- The text of a positive decimal is a numeral. -/
theorem isNumeral_scientificText (d : Scientific) : IsNumeral (scientificText d) := by
  have hdigits := areDigits_toDigits d.digits
  have hzero : AreDigits ['0'] := areDigits_zeros 1
  have hne : Nat.toDigits 10 d.digits ≠ [] := Nat.toDigits_ne_nil
  unfold scientificText
  generalize Nat.toDigits 10 d.digits = digits at hdigits hne
  dsimp only
  split
  · split
    · exact isNumeral_point (areDigits_append.2 ⟨hdigits, areDigits_zeros _⟩) (by simp [hne])
        hzero
    · split
      · refine isNumeral_point (fun c hc => hdigits c (List.mem_of_mem_take hc)) ?_
          (fun c hc => hdigits c (List.mem_of_mem_drop hc))
        simp only [ne_eq, List.take_eq_nil_iff, hne, or_false]
        omega
      · exact isNumeral_point hzero (by decide)
          (areDigits_append.2 ⟨areDigits_zeros _, hdigits⟩)
  · generalize hsign : (if (digits.length : Int) + d.exponent - 1 < 0 then '-' else '+') = sign
    have hsign' : sign ∈ ['+', '-'] := by
      rw [← hsign]
      split <;> decide
    have hscale : IsScale ('e' :: sign ::
        Nat.toDigits 10 ((digits.length : Int) + d.exponent - 1).natAbs) :=
      .inr ⟨sign, hsign', _, areDigits_toDigits _, rfl⟩
    split
    · rename_i first second rest _
      rw [areDigits_cons] at hdigits
      exact ⟨[first], '.' :: (second :: rest) ++ _, by simpa [AreDigits] using hdigits.1,
        List.cons_ne_nil _ _,
        .inr ⟨second :: rest, _, hdigits.2, hscale, rfl⟩, by simp⟩
    · exact ⟨digits, _, hdigits, hne, .inl hscale, rfl⟩

/-- The sign of a text, and what follows it. -/
def signed (negative : Bool) (t : List Char) : List Char := if negative then '-' :: t else t

/-- The text of a number is a numeral with a sign. -/
theorem exists_numeral (n : Number) : ∃ negative t, IsNumeral t ∧ n.text = signed negative t := by
  cases n with
  | int n =>
    refine ⟨decide (n < 0), _, isNumeral_toDigits n.natAbs, ?_⟩
    simp [Number.text, intText, signed]
  | real x =>
    have hzero : AreDigits ['0'] := areDigits_zeros 1
    refine ⟨x.negative, if x.isZero then ['0', '.', '0'] else scientificText x.shortest, ?_, rfl⟩
    split
    · exact isNumeral_point hzero (by decide) hzero
    · exact isNumeral_scientificText _

/-- The characters other than digits that the text of a number can hold. -/
def numberMarks : List Char := ['-', '+', '.', 'e']

theorem IsScale.mem {t : List Char} (h : IsScale t) :
    ∀ c ∈ t, c.isDigit = true ∨ c ∈ numberMarks := by
  obtain rfl | ⟨sign, hsign, ds, hds, rfl⟩ := h
  · exact List.forall_mem_nil _
  · have hmark : sign ∈ numberMarks := by
      simp only [List.mem_cons, List.not_mem_nil, or_false] at hsign
      obtain rfl | rfl := hsign <;> decide
    exact List.forall_mem_cons.2 ⟨.inr (by decide),
      List.forall_mem_cons.2 ⟨.inr hmark, fun c hc => .inl (hds c hc)⟩⟩

theorem IsNumeral.mem {t : List Char} (h : IsNumeral t) :
    ∀ c ∈ t, c.isDigit = true ∨ c ∈ numberMarks := by
  obtain ⟨ds, tail, hds, -, htail, rfl⟩ := h
  refine List.forall_mem_append.2 ⟨fun c hc => .inl (hds c hc), ?_⟩
  obtain hscale | ⟨ds, scale, hds, hscale, rfl⟩ := htail
  · exact hscale.mem
  · exact List.forall_mem_append.2
      ⟨List.forall_mem_cons.2 ⟨.inr (by decide), fun c hc => .inl (hds c hc)⟩, hscale.mem⟩

/-- The text of a number holds digits and the marks of numbers, and nothing else. -/
theorem Number.mem_text (n : Number) : ∀ c ∈ n.text, c.isDigit = true ∨ c ∈ numberMarks := by
  obtain ⟨negative, t, ht, htext⟩ := exists_numeral n
  rw [htext]
  cases negative with
  | true => exact List.forall_mem_cons.2 ⟨.inr (by decide), ht.mem⟩
  | false => exact ht.mem

/-! ## Numbers as values -/

theorem ne_of_isDigit {c d : Char} (h : c.isDigit = true) (hd : d.isDigit = false) : c ≠ d := by
  rintro rfl
  rw [h] at hd
  cases hd

theorem isJsonBlank_of_isDigit {c : Char} (h : c.isDigit = true) :
    isJsonBlank (.char c) = false := by
  simp [isJsonBlank, ne_of_isDigit h (d := ' ') rfl, ne_of_isDigit h (d := '\t') rfl,
    ne_of_isDigit h (d := '\n') rfl, ne_of_isDigit h (d := '\r') rfl]

theorem valueHere_digit {c : Char} (h : c.isDigit = true) (total : Nat)
    (nested : Option (Reader Value)) (rest : List Symbol) :
    valueHere total nested (.char c :: rest) =
      asValue .number (number false (.char c :: rest)) := by
  have hother : "ntf-\"[\x7b".toList.all (!·.isDigit) = true := by decide
  have hne : ∀ d ∈ "ntf-\"[\x7b".toList, Symbol.char c ≠ .char d := by
    intro d hd heq
    exact ne_of_isDigit h (by simpa using List.all_eq_true.1 hother d hd) (Symbol.char.inj heq)
  have hdigit : (digit? (.char c)).isSome = true := by rw [digit?_of_isDigit h]; rfl
  rw [valueHere, if_pos hdigit]
  all_goals exact hne _ (by decide)

theorem IsNumeral.head {t : List Char} (h : IsNumeral t) :
    ∃ c r, t = c :: r ∧ c.isDigit = true := by
  obtain ⟨ds, tail, hds, hne, -, rfl⟩ := h
  cases ds with
  | nil => exact absurd rfl hne
  | cons c ds => exact ⟨c, ds ++ tail, rfl, (areDigits_cons.1 hds).1⟩

theorem IsNumeral.consumes {t : List Char} (h : IsNumeral t) (negative : Bool) :
    Consumes (number negative (symbolsOf t)) := by
  obtain ⟨ds, tail, hds, hne, htail, rfl⟩ := h
  exact number_consumes hds htail hne negative

theorem value_signed {t : List Char} (h : IsNumeral t) (negative : Bool) (total depth : Nat)
    (rest : List Symbol) :
    value total depth (symbolsOf (signed negative t) ++ rest) =
      asValue .number (number negative (symbolsOf t ++ rest)) := by
  obtain ⟨c, r, rfl, hc⟩ := h.head
  rw [value_eq]
  cases negative with
  | true => rfl
  | false =>
    rw [signed, if_neg Bool.false_ne_true, symbolsOf_cons, List.cons_append,
      skipBlanks_cons (isJsonBlank_of_isDigit hc), valueHere_digit hc]

/-- The number that the text of a number is read as. -/
def Number.reread? (n : Number) : Option Number :=
  match parse? (String.ofList n.text) with
  | some (.number m) => some m
  | _ => none

theorem reread?_eq {n : Number} {negative : Bool} {t : List Char} (ht : IsNumeral t)
    (htext : n.text = signed negative t) :
    n.reread? = (number negative (symbolsOf t)).toOption.map Prod.fst := by
  have hvalue := value_signed ht negative (n.text.length + 1) depthLimit []
  rw [List.append_nil, List.append_nil, ← htext] at hvalue
  unfold Number.reread?
  rw [parse?_eq, String.toList_ofList, hvalue, toOption_asValue]
  have hconsumes := ht.consumes negative
  cases hr : number negative (symbolsOf t) with
  | error f => rfl
  | ok p =>
    obtain ⟨m, rest⟩ := p
    obtain rfl := hconsumes m rest hr
    rfl

/-- **What the text of a number is read as**, whatever follows it. -/
theorem value_text (n : Number) {rest : List Symbol} (hrest : EndsNumber rest) (total depth : Nat) :
    (value total depth (symbolsOf n.text ++ rest)).toOption =
      n.reread?.map fun m => (.number m, rest) := by
  obtain ⟨negative, t, ht, htext⟩ := exists_numeral n
  rw [reread?_eq ht htext, htext, value_signed ht, toOption_asValue, number_append hrest]
  have hconsumes := ht.consumes negative
  cases hr : number negative (symbolsOf t) with
  | error f => rfl
  | ok p =>
    obtain ⟨m, rest'⟩ := p
    obtain rfl := hconsumes m rest' hr
    rfl

/-- **A 64-bit integer is read back from its text.** -/
theorem reread?_int {n : Int} (h : (Number.int n).InRange) : (Number.int n).reread? = some (.int n) := by
  obtain ⟨hlow, hhigh⟩ := h
  have hread := fun negative => number_toDigits negative (n := n.natAbs)
    (by have : greatestWord = 18446744073709551615 := rfl; omega)
  have hnumeral := isNumeral_toDigits n.natAbs
  by_cases hn : n < 0
  · have htext : (Number.int n).text = signed true (Nat.toDigits 10 n.natAbs) := by
      simp [Number.text, intText, signed, hn]
    have hpos : 0 < n.natAbs := by omega
    have hle : n.natAbs ≤ UInt64.size / 2 := by
      have : UInt64.size / 2 = 9223372036854775808 := rfl
      omega
    have hneg : integerNumber true n.natAbs = .int n := by
      unfold integerNumber
      simp only [hpos, hle]
      exact congrArg Number.int (by omega)
    rw [reread?_eq hnumeral htext, hread, hneg]
    rfl
  · have htext : (Number.int n).text = signed false (Nat.toDigits 10 n.natAbs) := by
      simp [Number.text, intText, signed, hn]
    have hpos : integerNumber false n.natAbs = .int n :=
      congrArg Number.int (Int.natAbs_of_nonneg (Int.not_lt.1 hn))
    rw [reread?_eq hnumeral htext, hread, hpos]
    rfl

end ApiConsole.Json
