import ApiConsole.Response.Images
import Mathlib.Tactic.Common

/-!
# Base64 is read as it is written

Reading undoes writing (`decode?_encode`), and a text that can be read is what its bytes are written
as (`encode_of_decode?`): padding has to be there and the bits that it cuts off have to be zero, so
no text but the written form is accepted (`decode?_eq_some_iff`).
-/
namespace ApiConsole.Base64

/-! ## Letters -/

theorem value?_letter {n : Nat} (h : n < 64) : value? (letter n) = some n := by
  have hall : ∀ n < 64, value? (letter n) = some n := by decide
  exact hall n h

/-- Six bits have one letter. -/
theorem value?_eq_some_iff {c : Char} {n : Nat} : value? c = some n ↔ n < 64 ∧ letter n = c := by
  constructor
  · intro h
    have hchar : ∀ m, m = c.toNat → Char.ofNat m = c := by
      rintro m rfl
      exact Char.ofNat_toNat c
    unfold value? at h
    simp only [Bool.and_eq_true, decide_eq_true_eq, beq_iff_eq] at h
    split at h
    · cases h
      exact ⟨by omega, by rw [letter, if_pos (by omega), hchar _ (by omega)]⟩
    split at h
    · cases h
      exact ⟨by omega, by
        rw [letter, if_neg (by omega), if_pos (by omega), hchar _ (by omega)]⟩
    split at h
    · cases h
      exact ⟨by omega, by
        rw [letter, if_neg (by omega), if_neg (by omega), if_pos (by omega), hchar _ (by omega)]⟩
    split at h
    · next hc =>
      cases h
      exact ⟨by decide, hc ▸ rfl⟩
    split at h
    · next hc =>
      cases h
      exact ⟨by decide, hc ▸ rfl⟩
    · cases h
  · rintro ⟨hn, rfl⟩
    exact value?_letter hn

theorem letter_ne_padding {n : Nat} (h : n < 64) : letter n ≠ '=' := by
  intro hc
  have := value?_letter h
  rw [hc] at this
  cases this

theorem isBase64Char_letter {n : Nat} (h : n < 64) : isBase64Char (letter n) = true := by
  simp [isBase64Char, value?_letter h]

/-! ## Groups -/

/-- A group that does not end in padding is read with what follows it. -/
theorem decode?_group {d : Char} (hd : d ≠ '=') (a b c : Char) (rest : List Char) :
    decode? (a :: b :: c :: d :: rest) = (do
      let x ← value? a
      let y ← value? b
      let z ← value? c
      let w ← value? d
      let tail ← decode? rest
      some (UInt8.ofNat (x * 4 + y / 16) :: UInt8.ofNat (y % 16 * 16 + z / 4) ::
        UInt8.ofNat (z % 4 * 64 + w) :: tail)) := by
  rw [decode?]
  · rintro - rfl
    exact absurd rfl hd
  · rintro rfl
    exact absurd rfl hd

/-- A byte is put together from its parts. -/
theorem ofNat_eq {n : Nat} {a : UInt8} (h : n = a.toNat) : UInt8.ofNat n = a := by
  rw [h, UInt8.ofNat_toNat]

theorem decode?_encode (bytes : List UInt8) : decode? (encode bytes) = some bytes := by
  fun_induction encode bytes with
  | case1 => rfl
  | case2 a =>
    have ha : a.toNat < 256 := a.toNat_lt_size
    have hx := value?_letter (show a.toNat / 4 < 64 by omega)
    have hy := value?_letter (show a.toNat % 4 * 16 < 64 by omega)
    simp only [decode?, hx, hy, Option.bind_eq_bind, Option.bind_some]
    rw [if_pos (by simp), ofNat_eq (show _ = a.toNat by omega)]
  | case3 a b =>
    have ha : a.toNat < 256 := a.toNat_lt_size
    have hb : b.toNat < 256 := b.toNat_lt_size
    have hx := value?_letter (show a.toNat / 4 < 64 by omega)
    have hy := value?_letter (show a.toNat % 4 * 16 + b.toNat / 16 < 64 by omega)
    have hlast : b.toNat % 16 * 4 < 64 := by omega
    rw [decode?]
    · simp only [hx, hy, value?_letter hlast, Option.bind_eq_bind, Option.bind_some]
      rw [if_pos (by simp), ofNat_eq (show _ = a.toNat by omega),
        ofNat_eq (show _ = b.toNat by omega)]
    · exact letter_ne_padding hlast
  | case4 a b c rest ih =>
    have ha : a.toNat < 256 := a.toNat_lt_size
    have hb : b.toNat < 256 := b.toNat_lt_size
    have hc : c.toNat < 256 := c.toNat_lt_size
    have hx := value?_letter (show a.toNat / 4 < 64 by omega)
    have hy := value?_letter (show a.toNat % 4 * 16 + b.toNat / 16 < 64 by omega)
    have hz := value?_letter (show b.toNat % 16 * 4 + c.toNat / 64 < 64 by omega)
    have hlast : c.toNat % 64 < 64 := by omega
    rw [decode?_group (letter_ne_padding hlast)]
    simp only [hx, hy, hz, value?_letter hlast, ih, Option.bind_eq_bind, Option.bind_some]
    rw [ofNat_eq (show _ = a.toNat by omega), ofNat_eq (show _ = b.toNat by omega),
      ofNat_eq (show _ = c.toNat by omega)]

theorem isBase64Char_of_mem_encode (bytes : List UInt8) :
    ∀ c ∈ encode bytes, isBase64Char c = true := by
  have hpadding : isBase64Char '=' = true := by decide
  fun_induction encode bytes with
  | case1 => simp
  | case2 a =>
    have ha : a.toNat < 256 := a.toNat_lt_size
    simp only [List.forall_mem_cons, hpadding]
    exact ⟨isBase64Char_letter (by omega), isBase64Char_letter (by omega), by simp⟩
  | case3 a b =>
    have ha : a.toNat < 256 := a.toNat_lt_size
    have hb : b.toNat < 256 := b.toNat_lt_size
    simp only [List.forall_mem_cons, hpadding]
    exact ⟨isBase64Char_letter (by omega), isBase64Char_letter (by omega),
      isBase64Char_letter (by omega), by simp⟩
  | case4 a b c rest ih =>
    have ha : a.toNat < 256 := a.toNat_lt_size
    have hb : b.toNat < 256 := b.toNat_lt_size
    have hc : c.toNat < 256 := c.toNat_lt_size
    simp only [List.forall_mem_cons]
    exact ⟨isBase64Char_letter (by omega), isBase64Char_letter (by omega),
      isBase64Char_letter (by omega), isBase64Char_letter (by omega), ih⟩

theorem encode_of_decode? {s : List Char} {bytes : List UInt8} (h : decode? s = some bytes) :
    encode bytes = s := by
  fun_induction decode? s generalizing bytes with
  | case1 =>
    cases h
    rfl
  | case2 a b =>
    simp only [Option.bind_eq_bind, Option.bind_eq_some_iff, value?_eq_some_iff,
      Option.ite_none_right_eq_some, Option.some.injEq, beq_iff_eq] at h
    -- The bits that the padding cuts off are zero, so the byte determines both letters.
    obtain ⟨x, ⟨hx, rfl⟩, y, ⟨hy, rfl⟩, hcut, rfl⟩ := h
    simp only [encode, UInt8.toNat_ofNat_of_lt' (show x * 4 + y / 16 < 256 by omega)]
    rw [show (x * 4 + y / 16) / 4 = x by omega, show (x * 4 + y / 16) % 4 * 16 = y by omega]
  | case3 a b c =>
    simp only [Option.bind_eq_bind, Option.bind_eq_some_iff, value?_eq_some_iff,
      Option.ite_none_right_eq_some, Option.some.injEq, beq_iff_eq] at h
    obtain ⟨x, ⟨hx, rfl⟩, y, ⟨hy, rfl⟩, z, ⟨hz, rfl⟩, hcut, rfl⟩ := h
    simp only [encode, UInt8.toNat_ofNat_of_lt' (show x * 4 + y / 16 < 256 by omega),
      UInt8.toNat_ofNat_of_lt' (show y % 16 * 16 + z / 4 < 256 by omega)]
    rw [show (x * 4 + y / 16) / 4 = x by omega,
      show (x * 4 + y / 16) % 4 * 16 + (y % 16 * 16 + z / 4) / 16 = y by omega,
      show (y % 16 * 16 + z / 4) % 16 * 4 = z by omega]
  | case4 a b c d rest _ _ ih =>
    simp only [Option.bind_eq_bind, Option.bind_eq_some_iff, value?_eq_some_iff,
      Option.some.injEq] at h
    obtain ⟨x, ⟨hx, rfl⟩, y, ⟨hy, rfl⟩, z, ⟨hz, rfl⟩, w, ⟨hw, rfl⟩, tail, htail, rfl⟩ := h
    simp only [encode, ih htail, UInt8.toNat_ofNat_of_lt' (show x * 4 + y / 16 < 256 by omega),
      UInt8.toNat_ofNat_of_lt' (show y % 16 * 16 + z / 4 < 256 by omega),
      UInt8.toNat_ofNat_of_lt' (show z % 4 * 64 + w < 256 by omega)]
    rw [show (x * 4 + y / 16) / 4 = x by omega,
      show (x * 4 + y / 16) % 4 * 16 + (y % 16 * 16 + z / 4) / 16 = y by omega,
      show (y % 16 * 16 + z / 4) % 16 * 4 + (z % 4 * 64 + w) / 64 = z by omega,
      show (z % 4 * 64 + w) % 64 = w by omega]
  | case5 => cases h

/-- **The texts that can be read are the written forms.** -/
theorem decode?_eq_some_iff {s : List Char} {bytes : List UInt8} :
    decode? s = some bytes ↔ encode bytes = s := by
  constructor
  · exact encode_of_decode?
  · rintro rfl
    exact decode?_encode bytes

example : encode [0x66, 0x6F, 0x6F, 0x62, 0x61] = "Zm9vYmE=".toList := by decide

end ApiConsole.Base64
