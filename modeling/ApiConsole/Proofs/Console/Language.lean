import ApiConsole.Console.Command
import ApiConsole.Proofs.Text.AsciiCase
import ApiConsole.Proofs.Text.Trim

/-!
# The command language

A command is written as its word, a blank and its operand (`Command.print`). Reading gives only
commands that can be written so (`WellFormed`), and reads each of them back from its written form;
blanks around a line and the case of the ASCII letters of its word do not matter
(`Command.parse_round_trips`).

All of it rests on one fact, `parse_word`: a line that begins with a word is read as the command that
this word calls in lower case, with the trimmed text behind the word.
-/
namespace ApiConsole

open Text

/-! ## Positions -/

/-- Decimal digits that denote `n`. -/
def AreDigitsOf (digits : List Char) (n : Nat) : Prop :=
  digits ≠ [] ∧ (∀ c ∈ digits, c.isDigit = true) ∧ Nat.ofDigitChars 10 digits 0 = n

/-- Decimal digits that denote `n`, with a plus sign in front or not. -/
def SpellsNumber (text : List Char) (n : Nat) : Prop :=
  ∃ digits, AreDigitsOf digits n ∧ (text = digits ∨ text = '+' :: digits)

/-- The number that digits without a sign denote. -/
def unsignedNumber? (digits : List Char) : Option Nat :=
  let n := digits.foldl (fun n c => n * 10 + (c.toNat - 48)) 0
  if digits.isEmpty || !digits.all Char.isDigit || greatestPosition < n then none else some n

theorem positionNumber?_plus (digits : List Char) :
    positionNumber? ('+' :: digits) = unsignedNumber? digits := rfl

theorem positionNumber?_of_head {text : List Char} (h : ∀ rest, text ≠ '+' :: rest) :
    positionNumber? text = unsignedNumber? text := by
  unfold positionNumber?
  split
  · exact absurd rfl (h _)
  · rfl

theorem foldl_digits (digits : List Char) :
    digits.foldl (fun n c => n * 10 + (c.toNat - 48)) 0 = Nat.ofDigitChars 10 digits 0 := by
  rw [Nat.ofDigitChars_eq_foldl]
  congr 1
  funext n c
  rw [Nat.mul_comm]
  rfl

theorem unsignedNumber?_eq_some_iff {digits : List Char} {n : Nat} :
    unsignedNumber? digits = some n ↔ AreDigitsOf digits n ∧ n ≤ greatestPosition := by
  unfold unsignedNumber? AreDigitsOf
  rw [foldl_digits, Option.ite_none_left_eq_some]
  simp only [Bool.or_eq_true, not_or, List.isEmpty_iff, Bool.not_eq_true', Bool.not_eq_false,
    List.all_eq_true, decide_eq_true_eq, Nat.not_lt, Option.some.injEq]
  constructor
  · rintro ⟨⟨⟨hne, hall⟩, hle⟩, rfl⟩
    exact ⟨⟨hne, hall, rfl⟩, hle⟩
  · rintro ⟨⟨hne, hall, rfl⟩, hle⟩
    exact ⟨⟨⟨hne, hall⟩, hle⟩, rfl⟩

/-- A position is read off exactly the numerals that fit. -/
theorem positionNumber?_eq_some_iff {text : List Char} {n : Nat} :
    positionNumber? text = some n ↔ SpellsNumber text n ∧ n ≤ greatestPosition := by
  have hplus : ∀ {digits : List Char} {n}, AreDigitsOf digits n → ∀ rest, digits ≠ '+' :: rest := by
    rintro _ n ⟨-, hall, -⟩ rest rfl
    exact absurd (hall '+' List.mem_cons_self) (by decide)
  by_cases hsign : ∃ digits, text = '+' :: digits
  · obtain ⟨digits, rfl⟩ := hsign
    rw [positionNumber?_plus, unsignedNumber?_eq_some_iff]
    refine and_congr_left fun _ => ⟨fun h => ⟨digits, h, .inr rfl⟩, ?_⟩
    rintro ⟨ds, hds, rfl | heq⟩
    · exact absurd rfl (hplus hds digits)
    · rwa [List.cons.inj heq |>.2]
  · rw [positionNumber?_of_head fun rest h => hsign ⟨rest, h⟩, unsignedNumber?_eq_some_iff]
    refine and_congr_left fun _ => ⟨fun h => ⟨text, h, .inl rfl⟩, ?_⟩
    rintro ⟨ds, hds, rfl | heq⟩
    · exact hds
    · exact absurd ⟨ds, heq⟩ hsign

theorem spellsNumber_toDigits (n : Nat) : SpellsNumber (Nat.toDigits 10 n) n :=
  ⟨Nat.toDigits 10 n, ⟨Nat.toDigits_ne_nil,
    fun _ hc => Nat.isDigit_of_mem_toDigits (by decide) (by decide) hc,
    Nat.ofDigitChars_ten_toDigits⟩, .inl rfl⟩

/-- A spelling of a number is one word. -/
theorem spellsNumber_word {text : List Char} {n : Nat} (h : SpellsNumber text n) :
    text ≠ [] ∧ ∀ c ∈ text, isBlank c = false := by
  obtain ⟨digits, ⟨hne, hall, -⟩, rfl | rfl⟩ := h
  · exact ⟨hne, fun c hc => isBlank_of_isDigit (hall c hc)⟩
  · refine ⟨List.cons_ne_nil _ _, List.forall_mem_cons.2 ⟨by decide, fun c hc => ?_⟩⟩
    exact isBlank_of_isDigit (hall c hc)

/-! ## Written forms -/

/-- The word that stands for a command where it is written. -/
def CommandWord.name (w : CommandWord) : String := w.words.headD ""

namespace Command

/-- The word that calls a command; the empty line has none. -/
def calledBy? : Command → Option CommandWord
  | empty => none
  | list .. => some .list
  | counts => some .counts
  | select _ => some .select
  | preview => some .preview
  | body _ => some .body
  | reset => some .reset
  | format => some .format
  | path _ => some .path
  | query _ => some .query
  | send => some .send
  | wait => some .wait
  | images => some .images
  | history => some .history
  | replay _ => some .replay
  | clearHistory => some .clearHistory
  | snippet _ => some .snippet
  | model _ => some .model
  | help => some .help
  | quit => some .quit

/-- What is written behind the word of a command. -/
def operand? : Command → Option String
  | list category search => some (category.key ++ " " ++ search)
  | select id => some id.key
  | body .multiline => some "<<"
  | body (.set text) => some text
  | path text => text
  | query text => some text
  | replay (.position n) => some (String.ofList (Nat.toDigits 10 n))
  | replay (.id id) => some id
  | snippet target => target.map SnippetTarget.key
  | model name => name
  | _ => none

/-- The line that gives a command. -/
def print (c : Command) : String :=
  match c.calledBy?, c.operand? with
  | none, _ => ""
  | some w, none => w.name
  | some w, some operand => w.name ++ " " ++ operand

/-- Text that stands behind a command word: not empty, and without blanks at its ends. -/
def IsOperand (text : String) : Prop := text ≠ "" ∧ Trimmed text.toList

/-- The commands that a line can give. -/
def WellFormed : Command → Prop
  | list _ search => Trimmed search.toList
  | body (.set text) => IsOperand text ∧ text ≠ "<<"
  | path (some text) => IsOperand text
  | query text => Trimmed text.toList
  | replay (.position n) => 1 ≤ n ∧ n ≤ greatestPosition
  | replay (.id id) => IsOperand id ∧ ¬∃ n ≤ greatestPosition, SpellsNumber id.toList n
  | model (some name) => IsOperand name
  | _ => True

theorem positionNumber?_eq_none_iff {text : List Char} :
    positionNumber? text = none ↔ ¬∃ n ≤ greatestPosition, SpellsNumber text n := by
  rw [Option.eq_none_iff_forall_ne_some]
  constructor
  · rintro h ⟨n, hle, hn⟩
    exact h n (positionNumber?_eq_some_iff.2 ⟨hn, hle⟩)
  · intro h n hn
    obtain ⟨hspells, hle⟩ := positionNumber?_eq_some_iff.1 hn
    exact h ⟨n, hle, hspells⟩

/-! ## What is read is well formed -/

variable {rest : List Char} {c : Command}

theorem trimmed_ofList (h : Trimmed rest) : Trimmed (String.ofList rest).toList := by
  rwa [String.toList_ofList]

theorem isOperand_ofList (h : Trimmed rest) (hne : rest ≠ []) : IsOperand (String.ofList rest) := by
  refine ⟨fun hnil => hne ?_, trimmed_ofList h⟩
  simpa using congrArg String.toList hnil

theorem isOperand_of_argument? (h : Trimmed rest) {text : String} (ht : argument? rest = some text) :
    IsOperand text := by
  unfold argument? at ht
  split at ht
  · cases ht
  · cases ht
    exact isOperand_ofList h (by simp_all)

theorem wellFormed_parseList (h : Trimmed rest) : (parseList rest).WellFormed := by
  unfold parseList
  dsimp only
  split
  · exact trimmed_ofList (trimmed_trim _)
  · exact trimmed_ofList h

theorem wellFormed_parseBody (h : Trimmed rest) : (parseBody rest).WellFormed := by
  unfold parseBody
  by_cases hnil : rest = []
  · simp [hnil, WellFormed]
  · by_cases hmark : rest = ['<', '<']
    · simp [hmark, WellFormed]
    · rw [if_neg (by simpa using hnil), if_neg (by simpa using hmark)]
      refine ⟨isOperand_ofList h hnil, fun heq => hmark ?_⟩
      simpa using congrArg String.toList heq

theorem wellFormed_parseReplay (h : Trimmed rest) (hc : parseReplay rest = .ok c) :
    c.WellFormed := by
  unfold parseReplay at hc
  split at hc
  · cases hc
  · rename_i hne
    split at hc
    · cases hc
    · rename_i n hzero hn
      cases hc
      obtain ⟨-, hle⟩ := positionNumber?_eq_some_iff.1 hn
      have hpos : n ≠ 0 := by
        rintro rfl
        exact hzero rfl
      exact ⟨Nat.pos_of_ne_zero hpos, hle⟩
    · rename_i hnone
      cases hc
      refine ⟨isOperand_ofList h (by simpa using hne), ?_⟩
      rw [String.toList_ofList]
      exact positionNumber?_eq_none_iff.1 hnone

theorem wellFormed_ofWord {w : CommandWord} (h : Trimmed rest) (hc : ofWord w rest = .ok c) :
    c.WellFormed := by
  cases w with
  | list => cases hc; exact wellFormed_parseList h
  | body => cases hc; exact wellFormed_parseBody h
  | replay => exact wellFormed_parseReplay h hc
  | path =>
    cases hc
    cases hp : argument? rest with
    | none => trivial
    | some text => exact isOperand_of_argument? h hp
  | model =>
    cases hc
    cases hp : argument? rest with
    | none => trivial
    | some text => exact isOperand_of_argument? h hp
  | query => cases hc; exact trimmed_ofList h
  | select =>
    simp only [ofWord, parseSelect] at hc
    split at hc
    · cases hc
    · split at hc <;> cases hc
      trivial
  | snippet =>
    simp only [ofWord, parseSnippet] at hc
    split at hc
    · cases hc; trivial
    · split at hc <;> cases hc
      trivial
  | _ => cases hc; trivial

/-! ## Reading a line -/

section word

variable {word tail : List Char} (hne : word ≠ []) (hword : ∀ c ∈ word, isBlank c = false)
variable (htail : ∀ c ∈ tail.head?, isBlank c = true)

include hne hword htail

/-- **A line that begins with a word** is read as the command that the word calls. -/
theorem parse_word {w : CommandWord} (hw : CommandWord.ofWord? (String.ofList (lower word)) = some w) :
    parse (String.ofList (word ++ tail)) = ofWord w (trim tail) := by
  obtain ⟨hfirst, hrest⟩ := splitBlank_trim hne hword htail
  have hempty : (splitBlank (trim (word ++ tail))).1.isEmpty = false := by
    rw [hfirst]
    simpa using hne
  unfold parse
  rw [String.toList_ofList]
  simp only [hempty, Bool.false_eq_true, if_false]
  simp only [hfirst, hrest, hw]

theorem parse_unknown (hw : CommandWord.ofWord? (String.ofList (lower word)) = none) :
    parse (String.ofList (word ++ tail)) = .error (.unknown (String.ofList (lower word))) := by
  obtain ⟨hfirst, -⟩ := splitBlank_trim hne hword htail
  have hempty : (splitBlank (trim (word ++ tail))).1.isEmpty = false := by
    rw [hfirst]
    simpa using hne
  unfold parse
  rw [String.toList_ofList]
  simp only [hempty, Bool.false_eq_true, if_false]
  simp only [hfirst, hw]

end word

theorem wellFormed_of_parse {line : String} (h : parse line = .ok c) : c.WellFormed := by
  unfold parse at h
  dsimp only at h
  split at h
  · cases h
    trivial
  · split at h
    · exact wellFormed_ofWord (trimmed_trim _) h
    · cases h

theorem parse_pad {pre post : List Char} (hpre : ∀ c ∈ pre, isBlank c = true)
    (hpost : ∀ c ∈ post, isBlank c = true) (line : List Char) :
    parse (String.ofList (pre ++ line ++ post)) = parse (String.ofList line) := by
  unfold parse
  rw [String.toList_ofList, String.toList_ofList, trim_pad hpre hpost]

theorem parse_ascii_case {word word' tail : List Char} (hcase : SameUpToAsciiCase word word')
    (hword : ∀ c ∈ word, isBlank c = false) (htail : ∀ c ∈ tail.head?, isBlank c = true) :
    parse (String.ofList (word ++ tail)) = parse (String.ofList (word' ++ tail)) := by
  rcases sameUpToAsciiCase_cases hcase with ⟨rfl, rfl⟩ | ⟨c, d, s, t, hs, ht, -⟩
  · rfl
  · have hne : word ≠ [] := by simp [hs]
    have hne' : word' ≠ [] := by simp [ht]
    have hword' := allNotBlank_of_ascii hcase hword
    have hlower := lower_eq_of_ascii hcase
    cases hw : CommandWord.ofWord? (String.ofList (lower word)) with
    | none =>
      rw [parse_unknown hne hword htail hw, parse_unknown hne' hword' htail (hlower ▸ hw), hlower]
    | some w => rw [parse_word hne hword htail hw, parse_word hne' hword' htail (hlower ▸ hw)]

/-! ## Reading a written command -/

theorem name_ne_nil (w : CommandWord) : w.name.toList ≠ [] := by cases w <;> decide

theorem name_no_blank (w : CommandWord) : ∀ c ∈ w.name.toList, isBlank c = false :=
  not_blank_of_all (by cases w <;> decide)

theorem ofWord?_lower_name (w : CommandWord) :
    CommandWord.ofWord? (String.ofList (lower w.name.toList)) = some w := by
  cases w <;> decide +kernel

theorem parse_name (w : CommandWord) {tail : List Char} (htail : ∀ c ∈ tail.head?, isBlank c = true) :
    parse (String.ofList (w.name.toList ++ tail)) = ofWord w (trim tail) := by
  exact parse_word (name_ne_nil w) (name_no_blank w) htail (ofWord?_lower_name w)

/-- A word with an operand behind it. -/
theorem parse_name_space (w : CommandWord) (operand : List Char) :
    parse (String.ofList (w.name.toList ++ ' ' :: operand)) = ofWord w (trim operand) := by
  have hspace : ∀ c ∈ (' ' :: operand).head?, isBlank c = true := by
    rintro c ⟨⟩
    rfl
  rw [parse_name w hspace, trim_cons_blank rfl]

theorem filterParse_key (f : CategoryFilter) : CategoryFilter.parse f.key = .ok f := by
  cases f with
  | all => rfl
  | only c => cases c <;> rfl

theorem key_word (f : CategoryFilter) :
    f.key.toList ≠ [] ∧ ∀ c ∈ f.key.toList, isBlank c = false := by
  cases f with
  | all => exact ⟨by decide, not_blank_of_all (by decide)⟩
  | only c => exact ⟨by cases c <;> decide, not_blank_of_all (by cases c <;> decide)⟩

theorem parseList_key (f : CategoryFilter) {search : List Char} (h : Trimmed search) :
    parseList (trim (f.key.toList ++ ' ' :: search)) = .list f (String.ofList search) := by
  obtain ⟨hne, hblank⟩ := key_word f
  have hspace : ∀ c ∈ (' ' :: search).head?, isBlank c = true := by
    rintro c ⟨⟩
    rfl
  obtain ⟨hfirst, hrest⟩ := splitBlank_trim hne hblank hspace
  unfold parseList
  dsimp only
  rw [hfirst, hrest, String.ofList_toList, filterParse_key, trim_cons_blank rfl, h.trim_eq]

theorem parseSelect_key (id : EndpointId) : parseSelect id.key.toList = .ok (.select id) := by
  cases id <;> rfl

theorem trim_key (id : EndpointId) : trim id.key.toList = id.key.toList := by
  cases id <;> rfl

theorem IsOperand.argument? {text : String} (h : IsOperand text) :
    Command.argument? (trim text.toList) = some text := by
  have hne : text.toList ≠ [] := by simpa using h.1
  rw [h.2.trim_eq, Command.argument?, if_neg (by simpa using hne), String.ofList_toList]

theorem parseBody_operand {text : String} (h : IsOperand text) (hmark : text ≠ "<<") :
    parseBody (trim text.toList) = .body (.set text) := by
  have hne : text.toList ≠ [] := by simpa using h.1
  have hmark' : text.toList ≠ ['<', '<'] := fun heq => hmark (String.toList_injective heq)
  rw [h.2.trim_eq, parseBody, if_neg (by simpa using hne), if_neg (by simpa using hmark'),
    String.ofList_toList]

/-- Each spelling of a number is read as that position. -/
theorem parseReplay_of_spelling {text : List Char} {n : Nat} (h : SpellsNumber text n) (hpos : 1 ≤ n)
    (hle : n ≤ greatestPosition) : parseReplay (trim text) = .ok (.replay (.position n)) := by
  obtain ⟨hne, hblank⟩ := spellsNumber_word h
  have hread : positionNumber? text = some n := positionNumber?_eq_some_iff.2 ⟨h, hle⟩
  obtain ⟨m, rfl⟩ := Nat.exists_eq_add_of_le' hpos
  rw [(Trimmed.of_all hblank).trim_eq, parseReplay, hread, if_neg (by simpa using hne)]
  rfl

theorem parseReplay_position {n : Nat} (hpos : 1 ≤ n) (hle : n ≤ greatestPosition) :
    parseReplay (trim (Nat.toDigits 10 n)) = .ok (.replay (.position n)) :=
  parseReplay_of_spelling (spellsNumber_toDigits n) hpos hle

theorem parseReplay_id {id : String} (h : IsOperand id)
    (hnumber : ¬∃ n ≤ greatestPosition, SpellsNumber id.toList n) :
    parseReplay (trim id.toList) = .ok (.replay (.id id)) := by
  have hne : id.toList ≠ [] := by simpa using h.1
  rw [h.2.trim_eq, parseReplay, positionNumber?_eq_none_iff.2 hnumber,
    if_neg (by simpa using hne), String.ofList_toList]

/-- **What stands behind its word gives the command back.** -/
theorem ofWord_operand {w : CommandWord} (h : c.WellFormed) (hw : c.calledBy? = some w) :
    ofWord w (trim (c.operand?.getD "").toList) = .ok c := by
  cases c with
  | empty => cases hw
  | list category search =>
    cases hw
    have := parseList_key category h
    rw [String.ofList_toList] at this
    simpa [ofWord, operand?] using this
  | select id => cases hw; exact (trim_key id).symm ▸ parseSelect_key id
  | body edit =>
    cases hw
    cases edit with
    | display => rfl
    | multiline => rfl
    | set text => exact congrArg Except.ok (parseBody_operand h.1 h.2)
  | path text =>
    cases hw
    cases text with
    | none => rfl
    | some text => exact congrArg (Except.ok ∘ Command.path) h.argument?
  | query text =>
    cases hw
    simp [ofWord, operand?, Trimmed.trim_eq h]
  | replay entry =>
    cases hw
    cases entry with
    | position n => simpa [ofWord, operand?] using parseReplay_position h.1 h.2
    | id id => exact parseReplay_id h.1 h.2
  | snippet target =>
    cases hw
    cases target with
    | none => rfl
    | some t => cases t <;> rfl
  | model name =>
    cases hw
    cases name with
    | none => rfl
    | some text => exact congrArg (Except.ok ∘ Command.model) h.argument?
  | _ => cases hw; rfl

theorem parse_print (h : c.WellFormed) : parse c.print = .ok c := by
  unfold print
  split
  · rename_i hw
    cases c <;> cases hw
    rfl
  · rename_i w hw hoperand
    have hname : parse (String.ofList (w.name.toList ++ [])) = ofWord w (trim []) :=
      parse_name w nofun
    rw [List.append_nil, String.ofList_toList] at hname
    rw [hname, ← ofWord_operand h hw, hoperand]
    rfl
  · rename_i w operand hw hoperand
    have hline : w.name ++ " " ++ operand =
        String.ofList (w.name.toList ++ ' ' :: operand.toList) := by
      rw [← String.toList_inj]
      simp
    rw [hline, parse_name_space, ← ofWord_operand h hw, hoperand]
    rfl

/-! ## The round trip -/

/-- **The command language round-trips.** Every line gives a well-formed command or none, every
well-formed command is read back from its written form, and neither blanks around a line nor the case
of the ASCII letters of its first word change what is read. -/
theorem parse_round_trips :
    (∀ line c, parse line = .ok c → c.WellFormed) ∧
    (∀ c : Command, c.WellFormed → parse c.print = .ok c) ∧
    (∀ pre line post : List Char, (∀ c ∈ pre, isBlank c = true) → (∀ c ∈ post, isBlank c = true) →
      parse (String.ofList (pre ++ line ++ post)) = parse (String.ofList line)) ∧
    (∀ pre word word' tail : List Char, (∀ c ∈ pre, isBlank c = true) →
      (∀ c ∈ word, isBlank c = false) → (∀ c ∈ tail.head?, isBlank c = true) →
      SameUpToAsciiCase word word' →
      parse (String.ofList (pre ++ word ++ tail)) = parse (String.ofList (pre ++ word' ++ tail))) := by
  refine ⟨fun line c => wellFormed_of_parse, fun c => parse_print,
    fun pre line post hpre hpost => parse_pad hpre hpost line, ?_⟩
  intro pre word word' tail hpre hword htail hcase
  have hdrop : ∀ word : List Char, parse (String.ofList (pre ++ word ++ tail)) =
      parse (String.ofList (word ++ tail)) := by
    intro word
    have hpad := parse_pad hpre (List.forall_mem_nil _) (word ++ tail)
    rwa [List.append_nil, ← List.append_assoc] at hpad
  rw [hdrop, hdrop]
  exact parse_ascii_case hcase hword htail

/-- The first number that no longer fits is read as an identity, and is written and read back as one. -/
theorem parse_round_trips_overflow :
    parse "replay 18446744073709551616" = .ok (.replay (.id "18446744073709551616")) ∧
    (replay (.id "18446744073709551616")).WellFormed ∧
    parse (print (.replay (.id "18446744073709551616"))) =
      .ok (.replay (.id "18446744073709551616")) ∧
    parse (String.ofList ([' ', '\u00a0'] ++ "replay +7".toList ++ ['\t'])) =
      parse (String.ofList "replay +7".toList) ∧
    parse (String.ofList ([' '] ++ "RePLay".toList ++ " +7".toList)) =
      parse (String.ofList ([' '] ++ "replay".toList ++ " +7".toList)) := by
  have hread : parse "replay 18446744073709551616" =
      .ok (.replay (.id "18446744073709551616")) := by rfl
  have hformed := parse_round_trips.1 _ _ hread
  have hblank : ∀ c ∈ [' '], isBlank c = true := List.all_eq_true.1 (by decide)
  have hblanks : ∀ c ∈ [' ', '\u00a0'], isBlank c = true := List.all_eq_true.1 (by decide)
  have htab : ∀ c ∈ ['\t'], isBlank c = true := List.all_eq_true.1 (by decide)
  have hword : ∀ c ∈ "RePLay".toList, isBlank c = false := not_blank_of_all (by decide)
  have hspace : ∀ c ∈ " +7".toList.head?, isBlank c = true := by
    rintro c ⟨⟩
    rfl
  exact ⟨hread, hformed, parse_round_trips.2.1 _ hformed,
    parse_round_trips.2.2.1 _ _ _ hblanks htab,
    parse_round_trips.2.2.2 _ _ _ _ hblank hword hspace (by rfl)⟩

end Command

end ApiConsole
