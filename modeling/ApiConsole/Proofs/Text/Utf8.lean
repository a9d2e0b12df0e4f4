import ApiConsole.Text.Utf8
import Mathlib.Data.List.Infix

/-!
# Encoded texts

Reading a byte text as symbols loses nothing: where every symbol is a character, the bytes are the
encoding of these characters (`encode_of_symbols`). Encodings keep their place: an encoded text that
ends in the encoding of a character ends in that character (`exists_of_encode_eq`), since no byte
inside an encoding can begin one.
-/
namespace ApiConsole.Text

/-! ## Symbols and bytes -/

theorem drop_of_isPrefixOf {e bytes : List UInt8} (h : e.isPrefixOf bytes = true) :
    bytes = e ++ bytes.drop e.length := by
  obtain ⟨rest, rfl⟩ := List.isPrefixOf_iff_prefix.1 h
  rw [List.drop_left]

/-- A text of characters only is encoded by the bytes that it was read from. -/
theorem encode_of_symbols {bytes : List UInt8} {s : List Char}
    (h : (symbols bytes).mapM (·.char?) = some s) : bytes = s.flatMap String.utf8EncodeChar := by
  fun_induction symbols bytes generalizing s with
  | case1 => simp_all
  | case2 a r c hc ih =>
    rw [List.mapM_cons] at h
    obtain ⟨d, hd, h⟩ := Option.bind_eq_some_iff.1 h
    obtain ⟨t, ht, h⟩ := Option.bind_eq_some_iff.1 h
    cases hd
    cases h
    have hprefix : (String.utf8EncodeChar c).isPrefixOf (a :: r) = true := by
      simp only [leadingChar?] at hc
      split at hc
      · next hp =>
        cases hc
        exact hp
      · cases hc
    have hlen := String.length_utf8EncodeChar c
    have hpos := c.utf8Size_pos
    have hsplit := drop_of_isPrefixOf hprefix
    rw [hlen, show c.utf8Size = (c.utf8Size - 1) + 1 by omega, List.drop_succ_cons, ih ht] at hsplit
    rw [List.flatMap_cons]
    exact hsplit
  | case3 a r hc ih =>
    rw [List.mapM_cons] at h
    obtain ⟨d, hd, -⟩ := Option.bind_eq_some_iff.1 h
    cases hd

/-- The bytes of a string are the encodings of its characters. -/
theorem toList_toUTF8 (s : String) :
    s.toUTF8.data.toList = s.toList.flatMap String.utf8EncodeChar := by
  have hencode : s.toByteArray = s.toList.utf8Encode := by
    rw [← String.toByteArray_ofList, String.ofList_toList]
  rw [String.toUTF8_eq_toByteArray, hencode, List.utf8Encode, List.data_toByteArray,
    List.toList_toArray]

theorem symbols_toUTF8 (s : String) : symbols s.toUTF8.data.toList = symbolsOf s.toList := by
  rw [toList_toUTF8, symbols_encode]

/-! ## Where encodings begin -/

/-- A byte that can stand in an encoding, but not at its start. -/
def IsTail (b : UInt8) : Prop := 128 ≤ b.toNat ∧ b.toNat < 192

theorem isTail_of_mem (ns : List Nat) :
    ∀ b ∈ ns.map (fun n => UInt8.ofNat (n % 64 + 128)), IsTail b := by
  intro b hb
  obtain ⟨n, -, rfl⟩ := List.mem_map.1 hb
  have h : (UInt8.ofNat (n % 64 + 128)).toNat = n % 64 + 128 := by
    simp only [UInt8.toNat_ofNat']
    omega
  constructor <;> omega

theorem not_isTail_ofNat {n : Nat} (h : n < 128 ∨ 192 ≤ n) (hbyte : n < 256) :
    ¬IsTail (UInt8.ofNat n) := by
  rintro ⟨hlow, hhigh⟩
  have : (UInt8.ofNat n).toNat = n := by
    simp only [UInt8.toNat_ofNat']
    omega
  omega

/-- The encoding of a character is a byte that begins one and bytes that do not. -/
theorem exists_encode_eq_cons (c : Char) :
    ∃ a r, String.utf8EncodeChar c = a :: r ∧ ¬IsTail a ∧ ∀ b ∈ r, IsTail b := by
  unfold String.utf8EncodeChar
  simp only
  split
  · exact ⟨_, _, rfl, not_isTail_ofNat (by omega) (by omega), isTail_of_mem []⟩
  · split
    · exact ⟨_, _, rfl, not_isTail_ofNat (by omega) (by omega), isTail_of_mem [_]⟩
    · split
      · exact ⟨_, _, rfl, not_isTail_ofNat (by omega) (by omega), isTail_of_mem [_, _]⟩
      · exact ⟨_, _, rfl, not_isTail_ofNat (by omega) (by omega), isTail_of_mem [_, _, _]⟩

theorem encode_inj {c d : Char} (h : String.utf8EncodeChar c = String.utf8EncodeChar d) : c = d := by
  have hc := leadingChar?_encode c []
  rw [h, leadingChar?_encode] at hc
  exact (Option.some.inj hc).symm

/-- An encoding that ends in an encoding is that encoding. -/
theorem eq_of_encode_suffix {c d : Char}
    (h : String.utf8EncodeChar d <:+ String.utf8EncodeChar c) : d = c := by
  obtain ⟨before, h⟩ := h
  obtain ⟨a, r, hc, -, htail⟩ := exists_encode_eq_cons c
  obtain ⟨a', r', hd, hhead, -⟩ := exists_encode_eq_cons d
  cases before with
  | nil => exact encode_inj h
  | cons x before =>
    -- The first byte of `d` would stand inside the encoding of `c`.
    rw [hc, hd, List.cons_append, List.cons.injEq] at h
    exact absurd (htail a' (h.2 ▸ by simp)) hhead

/-- **An encoded text that ends in the encoding of a character ends in that character.** -/
theorem exists_of_encode_eq {s : List Char} {before : List UInt8} {c : Char}
    (h : s.flatMap String.utf8EncodeChar = before ++ String.utf8EncodeChar c) :
    ∃ t, s = t ++ [c] := by
  rcases List.eq_nil_or_concat' s with rfl | ⟨t, d, rfl⟩
  · obtain ⟨a, r, hc, -, -⟩ := exists_encode_eq_cons c
    simp [hc] at h
  · have hd : String.utf8EncodeChar d <:+ before ++ String.utf8EncodeChar c := by
      rw [← h, List.flatMap_append, List.flatMap_singleton]
      exact List.suffix_append _ _
    have hc : String.utf8EncodeChar c <:+ before ++ String.utf8EncodeChar c :=
      List.suffix_append _ _
    refine ⟨t, ?_⟩
    rcases List.suffix_or_suffix_of_suffix hd hc with hdc | hcd
    · rw [eq_of_encode_suffix hdc]
    · rw [eq_of_encode_suffix hcd]

end ApiConsole.Text
