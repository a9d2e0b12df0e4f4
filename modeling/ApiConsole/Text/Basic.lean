/-!
# Texts

White space in the sense of the Unicode property, and the cuts that depend on it: trimming a text
at both ends, and splitting it at its first blank. The cuts keep the text between them as it is.
Further the lines of a text, the occurrence of one text in another, the replacement of a character by
a text, and padding to a column width.
-/
namespace ApiConsole.Text

/-! ## Blanks -/

/-- The characters with the Unicode property White_Space. -/
def isBlank (c : Char) : Bool :=
  let n := c.toNat
  (9 ≤ n && n ≤ 13) || n == 0x20 || n == 0x85 || n == 0xA0 || n == 0x1680 ||
    (0x2000 ≤ n && n ≤ 0x200A) || n == 0x2028 || n == 0x2029 || n == 0x202F || n == 0x205F ||
    n == 0x3000

theorem isBlank_of_isWhitespace {c : Char} (h : c.isWhitespace = true) : isBlank c = true := by
  simp only [Char.isWhitespace, Bool.or_eq_true, decide_eq_true_eq] at h
  rcases h with ((rfl | rfl) | rfl) | rfl <;> decide

/-- Whether a text holds nothing but blanks; the empty text does. -/
def allBlank (s : List Char) : Bool := s.all isBlank

/-! ## Cuts -/

/-- Drops the longest final run of characters that satisfy `p`. -/
def dropEndWhile (p : Char → Bool) (s : List Char) : List Char :=
  (s.reverse.dropWhile p).reverse

/-- A text without the blanks at its start. -/
def trimStart (s : List Char) : List Char := s.dropWhile isBlank

/-- A text without the blanks at its end. -/
def trimEnd (s : List Char) : List Char := dropEndWhile isBlank s

/-- A text without the blanks at its two ends. -/
def trim (s : List Char) : List Char := trimEnd (trimStart s)

/-- The text up to its first blank, and the text after that blank; without a blank the second
part is empty. -/
def splitBlank (s : List Char) : List Char × List Char :=
  (s.takeWhile (!isBlank ·), (s.dropWhile (!isBlank ·)).tail)

@[simp] theorem trim_nil : trim [] = [] := rfl

@[simp] theorem splitBlank_nil : splitBlank [] = ([], []) := rfl

theorem takeWhile_splitBlank (s : List Char) : ∀ c ∈ (splitBlank s).1, isBlank c = false := by
  intro c hc
  have := List.all_takeWhile (p := (!isBlank ·)) (l := s)
  simpa using List.all_eq_true.1 this c hc

/-! ## Whole strings -/

/-- `trim` on strings. -/
def trimmed (s : String) : String := String.ofList (trim s.toList)

/-- Whether a string holds nothing but blanks. -/
def isBlankString (s : String) : Bool := allBlank s.toList

@[simp] theorem toList_trimmed (s : String) : (trimmed s).toList = trim s.toList := by
  simp [trimmed]

/-! ## Lines

A line ends with a line feed, which a carriage return may precede; what follows the last line feed is
a line as well unless it is empty. -/

/-- A line without the carriage return at its end. -/
def dropReturn (line : List Char) : List Char :=
  if line.getLast? == some '\r' then line.dropLast else line

/-- The lines of a text, the first of which has begun with `start`. -/
def splitLinesFrom : List Char → List Char → List (List Char)
  | start, [] => if start.isEmpty then [] else [start]
  | start, c :: rest =>
    if c == '\n' then dropReturn start :: splitLinesFrom [] rest
    else splitLinesFrom (start ++ [c]) rest

/-- The lines of a text. -/
def splitLines (s : List Char) : List (List Char) := splitLinesFrom [] s

/-! ## Search and replacement -/

/-- Whether `part` occurs in a text as one piece. -/
def occursIn (part : List Char) : List Char → Bool
  | [] => part.isEmpty
  | c :: r => part.isPrefixOf (c :: r) || occursIn part r

theorem occursIn_iff {part s : List Char} : occursIn part s = true ↔ part <:+: s := by
  induction s with
  | nil => simp [occursIn]
  | cons c r ih => simp [occursIn, ih, List.infix_cons_iff, List.isPrefixOf_iff_prefix]

/-- Replaces each occurrence of one character by a text. -/
def replaceChar (c : Char) (new : List Char) (s : List Char) : List Char :=
  s.flatMap fun x => if x == c then new else [x]

theorem replaceChar_append (c : Char) (new s t : List Char) :
    replaceChar c new (s ++ t) = replaceChar c new s ++ replaceChar c new t := List.flatMap_append

theorem replaceChar_cons_self (c : Char) (new s : List Char) :
    replaceChar c new (c :: s) = new ++ replaceChar c new s := by
  simp [replaceChar]

theorem replaceChar_of_not_mem {c : Char} {s : List Char} (h : c ∉ s) (new : List Char) :
    replaceChar c new s = s := by
  induction s with
  | nil => rfl
  | cons d s ih =>
    rw [List.mem_cons, not_or] at h
    have hne : (d == c) = false := beq_eq_false_iff_ne.2 (Ne.symm h.1)
    have hs := ih h.2
    unfold replaceChar at hs ⊢
    simp only [List.flatMap_cons, hne, hs]
    rfl

/-! ## Columns -/

/-- Fills a text with spaces on its right up to a width; a longer text stays as it is. -/
def padRight (width : Nat) (s : String) : String :=
  String.ofList (s.toList ++ List.replicate (width - s.length) ' ')

/-- Fills a text with spaces on its left up to a width; a longer text stays as it is. -/
def padLeft (width : Nat) (s : String) : String :=
  String.ofList (List.replicate (width - s.length) ' ' ++ s.toList)

end ApiConsole.Text
