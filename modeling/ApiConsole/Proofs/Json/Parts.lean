import ApiConsole.Json.Printer
import ApiConsole.Proofs.Json.Formed

/-!
# Reading lists of parts

The items of an array and the members of an object, each on its own between commas and blanks, read
by any reader that understands the text of one of them: the list is read part by part
(`itemsAfter_texts`, `membersAfter_texts`), and not read if one of its parts is not.
-/
namespace ApiConsole.Json

open Text

/-! ## What stands between parts -/

/-- A text that begins an item: neither a blank nor the end of the list. -/
def BeginsItem (t : List Char) : Prop :=
  ∃ c r, t = c :: r ∧ isJsonBlank (.char c) = false ∧ c ≠ ']'

theorem skipBlanks_item {t : List Char} (h : BeginsItem t) {gap : List Char} (hgap : IsGap gap)
    (rest : List Symbol) :
    skipBlanks (symbolsOf (gap ++ t) ++ rest) = symbolsOf t ++ rest := by
  obtain ⟨c, r, rfl, hc, -⟩ := h
  rw [symbolsOf_append, List.append_assoc, skipBlanks_gap hgap, symbolsOf_cons, List.cons_append,
    skipBlanks_cons hc]

/-- A character that is in no number. -/
def EndsNumeral (c : Char) : Prop := c.isDigit = false ∧ c ∉ "+-.eE".toList

instance (c : Char) : Decidable (EndsNumeral c) := inferInstanceAs (Decidable (_ ∧ _))

theorem endsNumber_char {c : Char} (h : EndsNumeral c) (rest : List Symbol) :
    EndsNumber (.char c :: rest) := by
  rintro x ⟨⟩
  refine ⟨by simp [digit?, h.1], fun hx => h.2 ?_⟩
  obtain ⟨d, hd, heq⟩ := List.mem_map.1 hx
  cases heq
  exact hd

/-- Blanks before a character end a number, as does the character. -/
theorem endsNumber_gap {gap : List Char} (hgap : IsGap gap) {c : Char} (hc : EndsNumeral c)
    (rest : List Symbol) : EndsNumber (symbolsOf gap ++ .char c :: rest) := by
  cases gap with
  | nil => exact endsNumber_char hc rest
  | cons b gap =>
    refine endsNumber_char ?_ _
    have hb : isJsonBlank (.char b) = true := hgap b List.mem_cons_self
    simp only [isJsonBlank, Bool.or_eq_true, beq_iff_eq, Symbol.char.injEq] at hb
    obtain ((rfl | rfl) | rfl) | rfl := hb <;> decide

/-! ## Lists of items -/

section items

variable {α β : Type} {item : Reader β} {text : α → List Char} {out : α → Option β}
variable {gap close : List Char}

/-- Texts behind the first, each with a comma before it, and the blanks before the closing bracket. -/
def furtherTexts (gap close : List Char) (text : α → List Char) (as : List α) : List Char :=
  as.flatMap (fun a => ',' :: (gap ++ text a)) ++ close

theorem furtherTexts_map {γ : Type} (gap close : List Char) (text : α → List Char) (f : γ → α)
    (cs : List γ) :
    furtherTexts gap close text (cs.map f) = furtherTexts gap close (fun c => text (f c)) cs := by
  simp [furtherTexts, List.flatMap_map]

variable (text gap) in
theorem endsNumber_further (hclose : IsGap close) {c : Char} (hc : EndsNumeral c) (as : List α)
    (rest : List Symbol) :
    EndsNumber (symbolsOf (furtherTexts gap close text as) ++ .char c :: rest) := by
  cases as with
  | nil => exact endsNumber_gap hclose hc rest
  | cons a as => exact endsNumber_char (by decide) _

theorem itemsAfter_end (hclose : IsGap close) (rounds : Nat) (acc : List β) (rest : List Symbol) :
    itemsAfter item (rounds + 1) acc (symbolsOf close ++ .char ']' :: rest) =
      .ok (acc.reverse, rest) := by
  rw [itemsAfter, skipBlanks_gap hclose, skipBlanks_cons rfl]
  rfl

theorem itemsAfter_comma {t : List Char} (ht : BeginsItem t) (hgap : IsGap gap) (rounds : Nat)
    (acc : List β) (rest : List Symbol) :
    (itemsAfter item (rounds + 1) acc (.char ',' :: (symbolsOf (gap ++ t) ++ rest))).toOption =
      (item (symbolsOf t ++ rest)).toOption.bind fun p =>
        (itemsAfter item rounds (p.1 :: acc) p.2).toOption := by
  have hskip := skipBlanks_item ht hgap rest
  obtain ⟨c, r, rfl, -, hbracket⟩ := ht
  rw [itemsAfter, skipBlanks_cons rfl]
  simp only [hskip, symbolsOf_cons, List.cons_append]
  split
  · rename_i heq; cases heq
  · rename_i heq; cases heq; exact absurd rfl hbracket
  · cases item (.char c :: (symbolsOf r ++ rest)) <;> rfl

theorem items_start {t : List Char} (ht : BeginsItem t) (hgap : IsGap gap) (rounds : Nat)
    (rest : List Symbol) :
    (items rounds item (symbolsOf (gap ++ t) ++ rest)).toOption =
      (item (symbolsOf t ++ rest)).toOption.bind fun p =>
        (itemsAfter item rounds [p.1] p.2).toOption := by
  have hskip := skipBlanks_item ht hgap rest
  obtain ⟨c, r, rfl, -, hbracket⟩ := ht
  rw [items, hskip, symbolsOf_cons, List.cons_append]
  split
  · rename_i heq; cases heq
  · rename_i heq; cases heq; exact absurd rfl hbracket
  · cases item (.char c :: (symbolsOf r ++ rest)) <;> rfl

/-- **A list of texts is read text by text.** -/
theorem itemsAfter_texts (hgap : IsGap gap) (hclose : IsGap close) {as : List α}
    (htext : ∀ a ∈ as, BeginsItem (text a))
    (hitem : ∀ a ∈ as, ∀ rest, EndsNumber rest →
      (item (symbolsOf (text a) ++ rest)).toOption = (out a).map (·, rest))
    {rounds : Nat} (hrounds : as.length < rounds) (acc : List β) (rest : List Symbol) :
    (itemsAfter item rounds acc
        (symbolsOf (furtherTexts gap close text as) ++ .char ']' :: rest)).toOption =
      (as.mapM out).map fun bs => (acc.reverse ++ bs, rest) := by
  induction as generalizing rounds acc with
  | nil =>
    obtain ⟨rounds, rfl⟩ := Nat.exists_eq_succ_of_ne_zero (Nat.ne_of_gt hrounds)
    rw [furtherTexts, List.flatMap_nil, List.nil_append, itemsAfter_end hclose]
    simp [Except.toOption]
  | cons a as ih =>
    obtain ⟨rounds, rfl⟩ : ∃ n, rounds = n + 1 := ⟨rounds - 1, by simp at hrounds; omega⟩
    rw [List.forall_mem_cons] at htext hitem
    have hsplit : symbolsOf (furtherTexts gap close text (a :: as)) ++ .char ']' :: rest =
        .char ',' :: (symbolsOf (gap ++ text a) ++
          (symbolsOf (furtherTexts gap close text as) ++ .char ']' :: rest)) := by
      simp [furtherTexts]
    have hread := hitem.1 _ (endsNumber_further text gap hclose
      (c := ']') (by decide) as rest)
    rw [hsplit, itemsAfter_comma htext.1 hgap, hread, List.mapM_cons]
    cases out a with
    | none => rfl
    | some b =>
      rw [Option.map_some, Option.bind_some, ih htext.2 hitem.2 (by simpa using hrounds)]
      cases as.mapM out <;> simp

variable (item text out) in
/-- A list that begins with an item. -/
theorem items_texts (hgap : IsGap gap) (hclose : IsGap close) {a : α} {as : List α}
    (htext : ∀ b ∈ a :: as, BeginsItem (text b))
    (hitem : ∀ b ∈ a :: as, ∀ rest, EndsNumber rest →
      (item (symbolsOf (text b) ++ rest)).toOption = (out b).map (·, rest))
    {rounds : Nat} (hrounds : as.length < rounds) (rest : List Symbol) :
    (items rounds item (symbolsOf (gap ++ text a) ++
        (symbolsOf (furtherTexts gap close text as) ++ .char ']' :: rest))).toOption =
      ((a :: as).mapM out).map (·, rest) := by
  rw [List.forall_mem_cons] at htext hitem
  have hread := hitem.1 _ (endsNumber_further text gap hclose
    (c := ']') (by decide) as rest)
  rw [items_start htext.1 hgap, hread, List.mapM_cons]
  cases out a with
  | none => rfl
  | some b =>
    rw [Option.map_some, Option.bind_some, itemsAfter_texts hgap hclose htext.2 hitem.2 hrounds]
    cases as.mapM out <;> simp

end items

/-! ## Lists of members -/

/-- A member with the greatest key goes to the end. -/
theorem insertMember_last {key : String} {v : Value} {acc : List (String × Value)}
    (h : ∀ m ∈ acc, m.1 < key) : Value.insertMember key v acc = acc ++ [(key, v)] := by
  induction acc with
  | nil => rfl
  | cons m acc ih =>
    obtain ⟨k, w⟩ := m
    rw [List.forall_mem_cons] at h
    have hlt : k < key := h.1
    have hne : key ≠ k := by
      rintro rfl
      exact String.lt_irrefl _ hlt
    rw [Value.insertMember, if_neg (String.lt_asymm hlt), if_neg hne, ih h.2, List.cons_append]

section members

variable {item : Reader Value} {text : Value → List Char} {out : Value → Option Value}
variable {gap close : List Char} {total : Nat}

/-- A key, a colon, a blank and the text of the value. -/
def memberText (text : Value → List Char) (m : String × Value) : List Char :=
  quote m.1.toList ++ ':' :: ' ' :: text m.2

theorem nextKey_first (hgap : IsGap gap) (rest : List Symbol) :
    nextKey true (symbolsOf gap ++ .char '"' :: rest) = .ok (.key rest) := by
  rw [nextKey, skipBlanks_gap hgap, skipBlanks_cons rfl]
  rfl

theorem nextKey_comma (hgap : IsGap gap) (rest : List Symbol) :
    nextKey false (.char ',' :: (symbolsOf gap ++ .char '"' :: rest)) = .ok (.key rest) := by
  have hskip : skipBlanks (symbolsOf gap ++ .char '"' :: rest) = .char '"' :: rest := by
    rw [skipBlanks_gap hgap, skipBlanks_cons rfl]
  rw [nextKey, skipBlanks_cons rfl]
  split
  · rename_i heq; cases heq
  · rename_i heq; cases heq
  · rename_i heq
    cases heq
    rw [if_neg Bool.false_ne_true, if_pos (beq_self_eq_true _), hskip]
    rfl

theorem nextKey_end (hclose : IsGap close) (first : Bool) (rest : List Symbol) :
    nextKey first (symbolsOf close ++ .char '\x7d' :: rest) = .ok (.done rest) := by
  rw [nextKey, skipBlanks_gap hclose, skipBlanks_cons rfl]
  rfl

/-- One round: a key, a colon and a value. -/
theorem membersAfter_key {first : Bool} {key : String} {s rest : List Symbol}
    (hs : nextKey first s =
      .ok (.key (symbolsOf (key.toList.flatMap escapeChar) ++ .char '"' :: .char ':' :: rest)))
    (hkey : key.toList.length < total) (rounds : Nat) (acc : List (String × Value)) :
    (membersAfter total item (rounds + 1) first acc s).toOption =
      (item rest).toOption.bind fun p =>
        (membersAfter total item rounds false (Value.insertMember key p.1 acc) p.2).toOption := by
  have hcolon : colon (.char ':' :: rest) = .ok rest := by
    rw [colon, skipBlanks_cons rfl]
    rfl
  rw [membersAfter]
  simp only [hs, string_quote hkey, String.ofList_toList, hcolon]
  cases item rest <;> rfl

/-- **Members with growing keys are read one by one.** -/
theorem membersAfter_texts (hgap : IsGap gap) (hclose : IsGap close)
    {members acc : List (String × Value)}
    (hkeys : ∀ m ∈ members, m.1.toList.length < total)
    (hsorted : SortedKeys (acc ++ members))
    (hitem : ∀ m ∈ members, ∀ rest, EndsNumber rest →
      (item (.char ' ' :: (symbolsOf (text m.2) ++ rest))).toOption = (out m.2).map (·, rest))
    {rounds : Nat} (hrounds : members.length < rounds) (rest : List Symbol) :
    (membersAfter total item rounds false acc
        (symbolsOf (furtherTexts gap close (memberText text) members) ++
          .char '\x7d' :: rest)).toOption =
      (members.mapM fun m => (out m.2).map (m.1, ·)).map fun ms => (acc ++ ms, rest) := by
  induction members generalizing rounds acc with
  | nil =>
    obtain ⟨rounds, rfl⟩ := Nat.exists_eq_succ_of_ne_zero (Nat.ne_of_gt hrounds)
    rw [furtherTexts, List.flatMap_nil, List.nil_append, membersAfter, nextKey_end hclose]
    simp [Except.toOption]
  | cons m members ih =>
    obtain ⟨rounds, rfl⟩ : ∃ n, rounds = n + 1 := ⟨rounds - 1, by simp at hrounds; omega⟩
    obtain ⟨key, v⟩ := m
    rw [List.forall_mem_cons] at hkeys hitem
    have hsplit : symbolsOf (furtherTexts gap close (memberText text) ((key, v) :: members)) ++
        .char '\x7d' :: rest = .char ',' :: (symbolsOf gap ++ .char '"' ::
          (symbolsOf (key.toList.flatMap escapeChar) ++ .char '"' :: .char ':' :: .char ' ' ::
            (symbolsOf (text v) ++ (symbolsOf (furtherTexts gap close (memberText text) members) ++
              .char '\x7d' :: rest)))) := by
      simp [furtherTexts, memberText, quote]
    have hread := hitem.1 _ (endsNumber_further (memberText text) gap hclose
      (c := '\x7d') (by decide) members rest)
    have hgreatest : ∀ m ∈ acc, m.1 < key := by
      intro m hm
      unfold SortedKeys at hsorted
      rw [List.map_append, List.pairwise_append] at hsorted
      exact hsorted.2.2 m.1 (List.mem_map_of_mem hm) key List.mem_cons_self
    have hsorted' : ∀ w, SortedKeys (acc ++ [(key, w)] ++ members) := by
      intro w
      unfold SortedKeys at hsorted ⊢
      simpa using hsorted
    rw [hsplit, membersAfter_key (nextKey_comma hgap _) hkeys.1, hread, List.mapM_cons]
    cases out v with
    | none => rfl
    | some w =>
      rw [Option.map_some, Option.bind_some, insertMember_last hgreatest,
        ih hkeys.2 (hsorted' w) hitem.2 (by simpa using hrounds)]
      cases members.mapM fun m => (out m.2).map (m.1, ·) <;> simp

variable (item text out) in
/-- The members of an object that has some. -/
theorem membersAfter_first (hgap : IsGap gap) (hclose : IsGap close) {m : String × Value}
    {members : List (String × Value)} (hkeys : ∀ n ∈ m :: members, n.1.toList.length < total)
    (hsorted : SortedKeys (m :: members))
    (hitem : ∀ n ∈ m :: members, ∀ rest, EndsNumber rest →
      (item (.char ' ' :: (symbolsOf (text n.2) ++ rest))).toOption = (out n.2).map (·, rest))
    {rounds : Nat} (hrounds : members.length < rounds) (rest : List Symbol) :
    (membersAfter total item (rounds + 1) true [] (symbolsOf (gap ++ memberText text m) ++
        (symbolsOf (furtherTexts gap close (memberText text) members) ++
          .char '\x7d' :: rest))).toOption =
      ((m :: members).mapM fun m => (out m.2).map (m.1, ·)).map (·, rest) := by
  obtain ⟨key, v⟩ := m
  rw [List.forall_mem_cons] at hkeys hitem
  have hread := hitem.1 _ (endsNumber_further (memberText text) gap hclose
    (c := '\x7d') (by decide) members rest)
  have hsplit : ∀ more, symbolsOf (gap ++ memberText text (key, v)) ++ more =
      symbolsOf gap ++ .char '"' :: (symbolsOf (key.toList.flatMap escapeChar) ++ .char '"' ::
        .char ':' :: .char ' ' :: (symbolsOf (text v) ++ more)) := by
    intro more
    simp [memberText, quote]
  rw [hsplit, membersAfter_key (nextKey_first hgap _) hkeys.1, hread, List.mapM_cons]
  cases out v with
  | none => rfl
  | some w =>
    have hsorted' : SortedKeys ([(key, w)] ++ members) := by
      unfold SortedKeys at hsorted ⊢
      simpa using hsorted
    rw [Option.map_some, Option.bind_some, Value.insertMember,
      membersAfter_texts hgap hclose hkeys.2 hsorted' hitem.2 hrounds]
    cases members.mapM fun m => (out m.2).map (m.1, ·) <;> simp

end members

end ApiConsole.Json
