import ApiConsole.Text.CaseTable

/-!
# Letter case

Full Unicode case mappings of texts. Upper case works character by character, and a character may
grow. Lower case does too, except that a capital sigma at the end of a word becomes the final
sigma: a cased letter stands before it and none after it, case-ignorable characters apart.
-/
namespace ApiConsole.Text

/-! ## Single characters -/

/-- The image of a code point under the first run that covers it. -/
def mapRuns (runs : List CaseRun) (c : Char) : Char :=
  match runs.find? (·.covers c.toNat) with
  | some r => Char.ofNat (c.toNat + r.shift).toNat
  | none => c

/-- Lower case of one character, out of context. -/
def lowerChar (c : Char) : List Char :=
  if c.toNat < 0x80 then [c.toLower]
  else if c == 'İ' then ['i', Char.ofNat 0x307]
  else [mapRuns lowerRuns c]

/-- Upper case of one character. -/
def upperChar (c : Char) : List Char :=
  if c.toNat < 0x80 then [c.toUpper]
  else match upperExpansions.find? (·.1 == c.toNat) with
    | some (_, codes) => codes.map Char.ofNat
    | none => [mapRuns upperRuns c]

def isCased (c : Char) : Bool := inRanges casedRanges c.toNat || c.isAlpha

def isCaseIgnorable (c : Char) : Bool := inRanges caseIgnorableRanges c.toNat

theorem lowerChar_ascii {c : Char} (h : c.toNat < 0x80) : lowerChar c = [c.toLower] := by
  simp [lowerChar, h]

theorem upperChar_ascii {c : Char} (h : c.toNat < 0x80) : upperChar c = [c.toUpper] := by
  simp [upperChar, h]

/-! ## Texts -/

/-- Whether the first character that is not case-ignorable is cased. -/
def reachesCased (s : List Char) : Bool :=
  match s.dropWhile isCaseIgnorable with
  | [] => false
  | c :: _ => isCased c

/-- Lower case of a text that follows `before`, which is given last character first. -/
def lowerAfter (before : List Char) : List Char → List Char
  | [] => []
  | c :: r =>
    (if c == 'Σ' then [if reachesCased before && !reachesCased r then 'ς' else 'σ']
      else lowerChar c) ++ lowerAfter (c :: before) r

/-- Lower case of a text. -/
def lower (s : List Char) : List Char := lowerAfter [] s

/-- Upper case of a text. -/
def upper (s : List Char) : List Char := s.flatMap upperChar

@[simp] theorem lower_nil : lower [] = [] := rfl

@[simp] theorem upper_nil : upper [] = [] := rfl

theorem upper_append (s t : List Char) : upper (s ++ t) = upper s ++ upper t := by
  simp [upper]

/-- Whether two texts are equal up to the case of ASCII letters. -/
def equalIgnoringAsciiCase (s t : List Char) : Bool :=
  s.map Char.toLower == t.map Char.toLower

end ApiConsole.Text
