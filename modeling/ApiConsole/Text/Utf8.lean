/-!
# Byte texts

A byte text is read as a sequence of symbols: the characters whose UTF-8 forms stand in it, and the
bytes at which no such form begins. Reading loses nothing, so a position in the symbols is a
position in the bytes.
-/
namespace ApiConsole.Text

/-- A character of a byte text, or a byte that begins none. -/
inductive Symbol where
  | char (c : Char)
  | stray (b : UInt8)
  deriving DecidableEq, Repr

namespace Symbol

/-- The number of bytes that a symbol stands for. -/
def width : Symbol → Nat
  | char c => c.utf8Size
  | stray _ => 1

/-- The character of a symbol, if it is one. -/
def char? : Symbol → Option Char
  | char c => some c
  | stray _ => none

end Symbol

/-- The number of bytes of a sequence of symbols. -/
def byteWidth (s : List Symbol) : Nat := s.foldr (fun x n => x.width + n) 0

/-- The symbols of a text that is known to hold characters only. -/
def symbolsOf (s : List Char) : List Symbol := s.map .char

/-- The code point that the first bytes would encode if they were well formed. -/
def leadingCode : List UInt8 → Nat
  | [] => 0
  | a :: r =>
    let tail (i : Nat) : Nat := (r.getD i 0).toNat % 64
    if a.toNat < 0x80 then a.toNat
    else if a.toNat < 0xE0 then a.toNat % 32 * 64 + tail 0
    else if a.toNat < 0xF0 then a.toNat % 16 * 4096 + tail 0 * 64 + tail 1
    else a.toNat % 8 * 262144 + tail 0 * 4096 + tail 1 * 64 + tail 2

/-- The character whose encoding begins a byte text. -/
def leadingChar? (bytes : List UInt8) : Option Char :=
  let c := Char.ofNat (leadingCode bytes)
  if (String.utf8EncodeChar c).isPrefixOf bytes then some c else none

/-- The symbols of a byte text. -/
def symbols : List UInt8 → List Symbol
  | [] => []
  | a :: r =>
    match leadingChar? (a :: r) with
    | some c => .char c :: symbols (r.drop (c.utf8Size - 1))
    | none => .stray a :: symbols r
termination_by bytes => bytes.length
decreasing_by
  · rw [List.length_drop]
    exact Nat.lt_succ_of_le (Nat.sub_le ..)
  · exact Nat.lt_succ_self _

@[simp] theorem byteWidth_nil : byteWidth [] = 0 := rfl

@[simp] theorem byteWidth_cons (x : Symbol) (s : List Symbol) :
    byteWidth (x :: s) = x.width + byteWidth s := rfl

/-! ## Reading back an encoding -/

private theorem toNat_ofNat_of_lt {n : Nat} (h : n < 256) : (UInt8.ofNat n).toNat = n := by
  simp [Nat.mod_eq_of_lt h]

/-- The code point of a character is read off its encoding, whatever follows. -/
theorem leadingCode_encode (c : Char) (rest : List UInt8) :
    leadingCode (String.utf8EncodeChar c ++ rest) = c.toNat := by
  have hc : c.val.toNat < 0x110000 := by
    have := c.valid
    rcases this with h | h
    · exact Nat.lt_trans h (by decide)
    · exact h.2
  change leadingCode (String.utf8EncodeChar c ++ rest) = c.val.toNat
  unfold String.utf8EncodeChar
  simp only
  split
  · simp only [List.cons_append, List.nil_append, leadingCode]
    rw [toNat_ofNat_of_lt (by omega)]
    repeat' split
    all_goals omega
  · split
    · simp only [List.cons_append, List.nil_append, leadingCode, List.getD_cons_zero]
      rw [toNat_ofNat_of_lt (by omega), toNat_ofNat_of_lt (by omega)]
      repeat' split
      all_goals omega
    · split
      · simp only [List.cons_append, List.nil_append, leadingCode, List.getD_cons_zero,
          List.getD_cons_succ]
        rw [toNat_ofNat_of_lt (by omega), toNat_ofNat_of_lt (by omega),
          toNat_ofNat_of_lt (by omega)]
        repeat' split
        all_goals omega
      · simp only [List.cons_append, List.nil_append, leadingCode, List.getD_cons_zero,
          List.getD_cons_succ]
        rw [toNat_ofNat_of_lt (by omega), toNat_ofNat_of_lt (by omega),
          toNat_ofNat_of_lt (by omega), toNat_ofNat_of_lt (by omega)]
        repeat' split
        all_goals omega

theorem leadingChar?_encode (c : Char) (rest : List UInt8) :
    leadingChar? (String.utf8EncodeChar c ++ rest) = some c := by
  simp [leadingChar?, leadingCode_encode]

/-- Reading the encoding of a text gives its characters. -/
theorem symbols_encode (s : List Char) :
    symbols (s.flatMap String.utf8EncodeChar) = symbolsOf s := by
  induction s with
  | nil => simp [symbols, symbolsOf]
  | cons c s ih =>
    have hlead := leadingChar?_encode c (s.flatMap String.utf8EncodeChar)
    have hlen : (String.utf8EncodeChar c).length = c.utf8Size := String.length_utf8EncodeChar c
    have hpos := c.utf8Size_pos
    cases he : String.utf8EncodeChar c with
    | nil => simp [he] at hlen; omega
    | cons a r =>
      rw [he] at hlead hlen
      simp only [List.flatMap_cons, he, List.cons_append] at hlead ⊢
      rw [symbols, hlead]
      simp only [List.length_cons] at hlen
      have : c.utf8Size - 1 = r.length := by omega
      simp [this, ih, symbolsOf]

end ApiConsole.Text
