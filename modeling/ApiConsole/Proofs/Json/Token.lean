import ApiConsole.Json.Reader
import ApiConsole.Proofs.Text.Trim

/-!
# Reading back strings

Blanks before a token are skipped (`skipBlanks_gap`). A quoted text is read back as it was,
whatever it holds (`string_quote`): each character takes one round (`stringChars_escapeChar`).
The last part says how the reader of values and the reader of a document hang together.
-/
namespace ApiConsole.Json

open Text

/-! ## Texts as symbols -/

@[simp] theorem symbolsOf_nil : symbolsOf [] = [] := rfl

@[simp] theorem symbolsOf_cons (c : Char) (s : List Char) :
    symbolsOf (c :: s) = .char c :: symbolsOf s := rfl

@[simp] theorem symbolsOf_append (s t : List Char) :
    symbolsOf (s ++ t) = symbolsOf s ++ symbolsOf t := List.map_append

@[simp] theorem length_symbolsOf (s : List Char) : (symbolsOf s).length = s.length := List.length_map _

/-! ## Blanks -/

/-- The characters that may stand between tokens. -/
def IsGap (s : List Char) : Prop := ∀ c ∈ s, isJsonBlank (.char c) = true

theorem skipBlanks_gap {gap : List Char} (h : IsGap gap) (s : List Symbol) :
    skipBlanks (symbolsOf gap ++ s) = skipBlanks s := by
  have hblank : ∀ x ∈ symbolsOf gap, isJsonBlank x = true := by
    intro x hx
    obtain ⟨c, hc, rfl⟩ := List.mem_map.1 hx
    exact h c hc
  exact List.dropWhile_append_of_pos hblank

theorem skipBlanks_cons {x : Symbol} (h : isJsonBlank x = false) (s : List Symbol) :
    skipBlanks (x :: s) = x :: s :=
  List.dropWhile_cons_of_neg (by simp [h])

/-! ## Strings -/

theorem hexDigit?_hexDigit {n : Nat} (h : n < 16) : hexDigit? (.char (hexDigit n)) = some n := by
  have hall : ∀ n < 16, hexDigit? (.char (hexDigit n)) = some n := by decide
  exact hall n h

/-- A character outside the range of surrogates is what its four digits stand for. -/
theorem unicodeEscape_control {c : Char} (h : c.toNat < 0x20) (rest : List Symbol) :
    unicodeEscape (.char '0' :: .char '0' :: .char (hexDigit (c.toNat / 16)) ::
      .char (hexDigit (c.toNat % 16)) :: rest) = .ok (c, rest) := by
  have hzero : hexDigit? (.char '0') = some 0 := by decide
  have hhigh := hexDigit?_hexDigit (show c.toNat / 16 < 16 by omega)
  have hlow := hexDigit?_hexDigit (show c.toNat % 16 < 16 by omega)
  have hcode : 0 * 4096 + 0 * 256 + c.toNat / 16 * 16 + c.toNat % 16 = c.toNat := by omega
  have hlarge : (0xDC00 ≤ c.toNat && c.toNat ≤ 0xDFFF) = false := by simp; omega
  have hhighHalf : (0xD800 ≤ c.toNat && c.toNat ≤ 0xDBFF) = false := by simp; omega
  simp only [unicodeEscape, hexFour, hzero, hhigh, hlow, hcode, hlarge, hhighHalf]
  simp

theorem stringChars_plain {c : Char} (hq : c ≠ '"') (hb : c ≠ '\\') (hc : ¬c.toNat < 0x20)
    (rounds : Nat) (acc : List Char) (rest : List Symbol) :
    stringChars (rounds + 1) none acc (.char c :: rest) = stringChars rounds none (c :: acc) rest := by
  rw [stringChars, if_neg hc]
  · rintro rfl
    exact hq rfl
  · rintro rfl
    exact hb rfl

/-- **The form of a character is read back in one round.** -/
theorem stringChars_escapeChar (c : Char) (rounds : Nat) (acc : List Char) (rest : List Symbol) :
    stringChars (rounds + 1) none acc (symbolsOf (escapeChar c) ++ rest) =
      stringChars rounds none (c :: acc) rest := by
  rcases escapeChar_cases c with hshort | ⟨hcontrol, hescape⟩ | ⟨hq, hb, hcontrol, hescape⟩
  · simp only [shortEscaped, List.mem_cons, List.not_mem_nil, or_false] at hshort
    rcases hshort with rfl | rfl | rfl | rfl | rfl | rfl | rfl <;> rfl
  · rw [hescape]
    simp only [symbolsOf_cons, symbolsOf_nil, List.cons_append, List.nil_append, stringChars,
      escape, unicodeEscape_control hcontrol]
  · rw [hescape]
    exact stringChars_plain hq hb hcontrol rounds acc rest

/-- **A quoted text is read back.** -/
theorem string_quote {s : List Char} {total : Nat} (h : s.length < total) (rest : List Symbol) :
    string total (symbolsOf (s.flatMap escapeChar) ++ .char '"' :: rest) =
      .ok (String.ofList s, rest) := by
  have hacc : ∀ (s acc : List Char) (rounds : Nat), s.length < rounds →
      stringChars rounds none acc (symbolsOf (s.flatMap escapeChar) ++ .char '"' :: rest) =
        .ok (String.ofList (acc.reverse ++ s), rest) := by
    intro s
    induction s with
    | nil =>
      intro acc rounds hr
      obtain ⟨rounds, rfl⟩ := Nat.exists_eq_add_of_lt hr
      simp [stringChars]
    | cons c s ih =>
      intro acc rounds hr
      obtain ⟨rounds, rfl⟩ : ∃ n, rounds = n + 1 := ⟨rounds - 1, by simp at hr; omega⟩
      rw [List.flatMap_cons, symbolsOf_append, List.append_assoc, stringChars_escapeChar,
        ih (c :: acc) rounds (by simpa using hr)]
      simp
  exact hacc s [] total h

/-! ## Values and documents -/

/-- Reads the parts of an array or object, where that may be nested. -/
def partReader (total : Nat) : Nat → Option (Reader Value)
  | 0 => none
  | depth + 1 => some (value total depth)

theorem value_eq (total depth : Nat) (s : List Symbol) :
    value total depth s = valueHere total (partReader total depth) (skipBlanks s) := by
  cases depth <;> rfl

theorem toOption_asValue {α : Type} (f : α → Value) (r : Except Fault (α × List Symbol)) :
    (asValue f r).toOption = r.toOption.map fun p => (f p.1, p.2) := by
  cases r <;> rfl

theorem eq_ok_of_toOption {ε α : Type} {r : Except ε α} {a : α} (h : r.toOption = some a) :
    r = .ok a := by
  cases r with
  | error => cases h
  | ok b => cases h; rfl

theorem asValue_eq_ok {α : Type} {f : α → Value} {r : Except Fault (α × List Symbol)} {v : Value}
    {rest : List Symbol} (h : asValue f r = .ok (v, rest)) : ∃ a, r = .ok (a, rest) ∧ v = f a := by
  cases r with
  | error => cases h
  | ok p => cases h; exact ⟨_, rfl, rfl⟩

theorem parse?_eq (text : String) :
    parse? text = (value (text.toList.length + 1) depthLimit (symbolsOf text.toList)).toOption.bind
      fun p => if skipBlanks p.2 = [] then some p.1 else none := by
  unfold parse? parse document
  dsimp only
  rw [length_symbolsOf]
  cases value (text.toList.length + 1) depthLimit (symbolsOf text.toList) with
  | error f => rfl
  | ok p =>
    obtain ⟨v, rest⟩ := p
    have hsome : (Except.ok (v, rest) : Except Fault (Value × List Symbol)).toOption =
        some (v, rest) := rfl
    rw [hsome, Option.bind_some]
    simp only [bind, Except.bind]
    cases skipBlanks rest <;> rfl

theorem parse?_eq_some_iff {text : String} {v : Value} :
    parse? text = some v ↔ parse text = .ok v :=
  ⟨eq_ok_of_toOption, fun h => by rw [parse?, h]; rfl⟩

/-- No value begins with a blank. -/
theorem valueHere_blank {c : Char} (h : isBlank c = true) (total : Nat)
    (nested : Option (Reader Value)) (rest : List Symbol) :
    valueHere total nested (.char c :: rest) = Fault.onNext .expectedValue (.char c :: rest) := by
  have hother : ∀ d ∈ "ntf-\"[\x7b".toList, isBlank d = false := not_blank_of_all (by decide)
  have hne : ∀ d ∈ "ntf-\"[\x7b".toList, Symbol.char c ≠ .char d := by
    intro d hd heq
    rw [Symbol.char.inj heq, hother d hd] at h
    cases h
  have hdigit : ¬(digit? (.char c)).isSome = true := by
    intro hsome
    have hc : c.isDigit = true := by
      rw [digit?] at hsome
      split at hsome
      · assumption
      · cases hsome
    rw [isBlank_of_isDigit hc] at h
    cases h
  rw [valueHere, if_neg hdigit]
  all_goals exact hne _ (by decide)

/-- **A text that is JSON is not blank.** -/
theorem not_blank_of_parse? {text : String} {v : Value} (h : parse? text = some v) :
    isBlankString text = false := by
  rw [← Bool.not_eq_true]
  intro hblank
  have hall : ∀ c ∈ text.toList, isBlank c = true := List.all_eq_true.1 hblank
  rw [parse?_eq, value_eq] at h
  obtain ⟨p, hp, -⟩ := Option.bind_eq_some_iff.1 h
  have hskip := List.dropWhile_sublist isJsonBlank (l := symbolsOf text.toList)
  cases hs : skipBlanks (symbolsOf text.toList) with
  | nil => rw [hs] at hp; cases hp
  | cons x rest =>
    have hx : x ∈ symbolsOf text.toList := hskip.subset (by
      show x ∈ skipBlanks (symbolsOf text.toList)
      rw [hs]
      exact List.mem_cons_self)
    obtain ⟨c, hc, rfl⟩ := List.mem_map.1 hx
    rw [hs, valueHere_blank (hall c hc)] at hp
    cases hp

end ApiConsole.Json
