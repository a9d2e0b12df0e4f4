import ApiConsole.Text.CaseTable
import ApiConsole.Text.Unprintable

/-!
# Quoted texts

Two forms of a text between quotation marks. In JSON there is a backslash before a quotation mark or
a backslash, and an escape for each control character below U+0020; all other characters stand for
themselves. Inside a message every character that does not stand for itself on a screen is escaped as
well, by its code point in braces.
-/
namespace ApiConsole.Text

/-! ## In JSON -/

/-- A hexadecimal digit in lower case. -/
def hexDigit (n : Nat) : Char := Nat.digitChar n

/-- The form of a character between quotation marks. -/
def escapeChar (c : Char) : List Char :=
  if c == '"' then ['\\', '"']
  else if c == '\\' then ['\\', '\\']
  else if c == '\x08' then ['\\', 'b']
  else if c == '\x0c' then ['\\', 'f']
  else if c == '\n' then ['\\', 'n']
  else if c == '\r' then ['\\', 'r']
  else if c == '\t' then ['\\', 't']
  else if c.toNat < 0x20 then
    ['\\', 'u', '0', '0', hexDigit (c.toNat / 16), hexDigit (c.toNat % 16)]
  else [c]

/-- A text in quotation marks. -/
def quote (s : List Char) : List Char := '"' :: s.flatMap escapeChar ++ ['"']

/-- A string in quotation marks. -/
def quoteString (s : String) : String := String.ofList (quote s.toList)

theorem escapeChar_plain {c : Char} (h : 0x20 ≤ c.toNat) (hq : c ≠ '"') (hb : c ≠ '\\') :
    escapeChar c = [c] := by
  have h1 : c ≠ '\x08' := by rintro rfl; simp at h
  have h2 : c ≠ '\x0c' := by rintro rfl; simp at h
  have h3 : c ≠ '\n' := by rintro rfl; simp at h
  have h4 : c ≠ '\r' := by rintro rfl; simp at h
  have h5 : c ≠ '\t' := by rintro rfl; simp at h
  simp [escapeChar, hq, hb, h1, h2, h3, h4, h5, Nat.not_lt.2 h]

/-- The characters that have an escape of two characters. -/
def shortEscaped : List Char := ['"', '\\', '\x08', '\x0c', '\n', '\r', '\t']

/-- A character has a short escape, or it is a control that is written by its code, or it stands for
itself. -/
theorem escapeChar_cases (c : Char) :
    c ∈ shortEscaped ∨
      (c.toNat < 0x20 ∧ escapeChar c =
        ['\\', 'u', '0', '0', hexDigit (c.toNat / 16), hexDigit (c.toNat % 16)]) ∨
      c ≠ '"' ∧ c ≠ '\\' ∧ ¬c.toNat < 0x20 ∧ escapeChar c = [c] := by
  by_cases hshort : c ∈ shortEscaped
  · exact .inl hshort
  · right
    have hne : ∀ d ∈ shortEscaped, c ≠ d := by
      rintro d hd rfl
      exact hshort hd
    have hq := hne '"' (by decide)
    have hb := hne '\\' (by decide)
    by_cases hcontrol : c.toNat < 0x20
    · left
      simp [escapeChar, hq, hb, hne '\x08' (by decide), hne '\x0c' (by decide),
        hne '\n' (by decide), hne '\r' (by decide), hne '\t' (by decide), hcontrol]
    · exact .inr ⟨hq, hb, hcontrol, escapeChar_plain (Nat.not_lt.1 hcontrol) hq hb⟩

/-! ## In messages -/

/-- A code point in lower-case hexadecimal digits, in braces. -/
def escapedCode (n : Nat) : List Char :=
  '\\' :: 'u' :: '\x7b' :: Nat.toDigits 16 n ++ ['\x7d']

/-- The form of a character in an escaped text. -/
def escapedChar (c : Char) : List Char :=
  if c == '"' then ['\\', '"']
  else if c == '\\' then ['\\', '\\']
  else if c == '\n' then ['\\', 'n']
  else if c == '\r' then ['\\', 'r']
  else if c == '\t' then ['\\', 't']
  else if c == '\x00' then ['\\', '0']
  else if c.toNat < 0x20 || inRanges unprintableRanges c.toNat then escapedCode c.toNat
  else [c]

/-- A text in its escaped form, with quotation marks around it. -/
def escapedString (s : String) : String :=
  String.ofList ('"' :: s.toList.flatMap escapedChar ++ ['"'])

end ApiConsole.Text
