import ApiConsole.Proofs.Json.Number
import Mathlib.Data.String.Basic

/-!
# The values that can be read

A value that the reader gives is formed (`formed_of_value`): its integers have 64 bits, the keys of
each object grow strictly, and no more arrays and objects are open at once than the reader allows.
Readers differ only in the last point (`Formed.iff_nesting_le`).
-/
namespace ApiConsole.Json

open Decimal Text

/-! ## Formed values -/

/-- An integer of 64 bits, signed or unsigned, or any fraction. -/
def Number.InRange : Number → Prop
  | .int n => -9223372036854775808 ≤ n ∧ n ≤ 18446744073709551615
  | .real _ => True

/-- Keys in strictly growing order. -/
def SortedKeys {α : Type} (members : List (String × α)) : Prop :=
  (members.map Prod.fst).Pairwise (· < ·)

/-- The values that the reader can give where `depth` arrays and objects may be open at once. -/
inductive Formed : Nat → Value → Prop where
  | null (depth : Nat) : Formed depth .null
  | bool (depth : Nat) (b : Bool) : Formed depth (.bool b)
  | number (depth : Nat) {n : Number} (h : n.InRange) : Formed depth (.number n)
  | string (depth : Nat) (s : String) : Formed depth (.string s)
  | array {depth : Nat} {items : List Value} (h : ∀ v ∈ items, Formed depth v) :
      Formed (depth + 1) (.array items)
  | object {depth : Nat} {members : List (String × Value)} (hsorted : SortedKeys members)
      (h : ∀ m ∈ members, Formed depth m.2) : Formed (depth + 1) (.object members)

/-! ## Members -/

theorem mem_insertMember {key : String} {v : Value} {members : List (String × Value)}
    {m : String × Value} (h : m ∈ Value.insertMember key v members) :
    m = (key, v) ∨ m ∈ members := by
  induction members with
  | nil => exact .inl (List.mem_singleton.1 h)
  | cons n members ih =>
    obtain ⟨k, w⟩ := n
    rw [Value.insertMember] at h
    split at h
    · exact List.mem_cons.1 h
    · split at h
      · exact (List.mem_cons.1 h).imp_right (List.mem_cons_of_mem _)
      · obtain rfl | h := List.mem_cons.1 h
        · exact .inr List.mem_cons_self
        · exact (ih h).imp_right (List.mem_cons_of_mem _)

theorem sortedKeys_cons {α : Type} {m : String × α} {members : List (String × α)} :
    SortedKeys (m :: members) ↔ (∀ n ∈ members, m.1 < n.1) ∧ SortedKeys members := by
  unfold SortedKeys
  rw [List.map_cons, List.pairwise_cons, List.forall_mem_map]

/-- **Members keep their order when one is put at its place.** -/
theorem sortedKeys_insertMember {members : List (String × Value)} (h : SortedKeys members)
    (key : String) (v : Value) : SortedKeys (Value.insertMember key v members) := by
  induction members with
  | nil => exact List.pairwise_singleton _ _
  | cons m members ih =>
    obtain ⟨k, w⟩ := m
    obtain ⟨hfirst, hrest⟩ := sortedKeys_cons.1 h
    rw [Value.insertMember]
    split
    · rename_i hlt
      refine sortedKeys_cons.2 ⟨fun n hn => ?_, h⟩
      obtain rfl | hn := List.mem_cons.1 hn
      · exact hlt
      · exact String.lt_trans hlt (hfirst n hn)
    · rename_i hnlt
      split
      · rename_i heq
        subst heq
        exact sortedKeys_cons.2 ⟨hfirst, hrest⟩
      · rename_i hne
        have hgt : k < key := lt_of_le_of_ne (not_lt.1 hnlt) (Ne.symm hne)
        refine sortedKeys_cons.2 ⟨fun n hn => ?_, ih hrest⟩
        obtain rfl | hn := mem_insertMember hn
        · exact hgt
        · exact hfirst n hn

theorem sortedMembers_eq (members : List (String × Value)) :
    Value.sortedMembers members =
      members.foldl (fun acc m => Value.insertMember m.1 m.2 acc) [] := rfl

theorem sortedKeys_sortedMembers (members : List (String × Value)) :
    SortedKeys (Value.sortedMembers members) := by
  have hfold : ∀ acc, SortedKeys acc →
      SortedKeys (members.foldl (fun acc m => Value.insertMember m.1 m.2 acc) acc) := by
    induction members with
    | nil => exact fun acc hacc => hacc
    | cons m members ih => exact fun acc hacc => ih _ (sortedKeys_insertMember hacc m.1 m.2)
  rw [sortedMembers_eq]
  exact hfold [] List.Pairwise.nil

theorem mem_sortedMembers {members : List (String × Value)} {m : String × Value}
    (h : m ∈ Value.sortedMembers members) : m ∈ members := by
  have hfold : ∀ acc, m ∈ members.foldl (fun acc n => Value.insertMember n.1 n.2 acc) acc →
      m ∈ acc ∨ m ∈ members := by
    clear h
    induction members with
    | nil => exact fun acc hm => .inl hm
    | cons n members ih =>
      intro acc hm
      obtain hm | hm := ih _ hm
      · obtain rfl | hm := mem_insertMember hm
        · exact .inr List.mem_cons_self
        · exact .inl hm
      · exact .inr (List.mem_cons_of_mem _ hm)
  rw [sortedMembers_eq] at h
  exact (hfold [] h).resolve_left List.not_mem_nil

/-! ## Numbers -/

/-- Each number that is read is in range. -/
def ReadsInRange (r : Except Fault (Number × List Symbol)) : Prop :=
  ∀ n rest, r = .ok (n, rest) → n.InRange

theorem readsInRange_error (f : Fault) : ReadsInRange (.error f) := nofun

theorem readsInRange_real (x : Binary64) (rest : List Symbol) :
    ReadsInRange (.ok (.real x, rest)) := by
  rintro n rest' ⟨⟩
  trivial

theorem signedReal_inRange (negative : Bool) (x : Option Binary64) (rest : List Symbol) :
    ReadsInRange (signedReal negative x rest) := by
  cases x with
  | none => exact readsInRange_error _
  | some x => exact readsInRange_real _ _

theorem readExponent_inRange (negative : Bool) (m : Nat) (start : Int) (s : List Symbol) :
    ReadsInRange (readExponent negative m start s) := by
  rw [readExponent_eq]
  unfold exponentDigits
  split
  · exact readsInRange_error _
  · split
    · exact readsInRange_error _
    · split
      · exact signedReal_inRange _ _ _
      · split
        · exact readsInRange_error _
        · exact readsInRange_real _ _

theorem readScale_inRange (negative : Bool) (m : Nat) (e : Int) (s : List Symbol) :
    ReadsInRange (readScale negative m e s) := by
  by_cases hs : beginsWith ['e', 'E'] s
  · obtain ⟨c, hc, rest, rfl⟩ := hs
    rw [readScale_letter hc]
    exact readExponent_inRange _ _ _ _
  · rw [readScale_other hs]
    exact signedReal_inRange _ _ _

theorem readFraction_inRange (negative : Bool) (m : Nat) (e : Int) (s : List Symbol) :
    ReadsInRange (readFraction negative m e s) := by
  unfold readFraction
  dsimp only
  split
  · split <;> exact readsInRange_error _
  · exact readScale_inRange _ _ _ _

theorem integerNumber_inRange (negative : Bool) {m : Nat} (h : m ≤ greatestWord) :
    (integerNumber negative m).InRange := by
  have hgreatest : greatestWord = 18446744073709551615 := rfl
  unfold integerNumber
  split
  · exact ⟨by omega, by omega⟩
  · split
    · rename_i hm
      have hhalf : UInt64.size / 2 = 9223372036854775808 := rfl
      simp only [Bool.and_eq_true, decide_eq_true_eq] at hm
      exact ⟨by omega, by omega⟩
    · trivial

theorem readTail_inRange (negative : Bool) {m : Nat} (h : m ≤ greatestWord) (dropped : Nat)
    (s : List Symbol) : ReadsInRange (readTail negative m dropped s) := by
  by_cases hs : beginsWith ['.', 'e', 'E'] s
  · obtain ⟨c, hc, rest, rfl⟩ := hs
    obtain rfl | hc := List.mem_cons.1 hc
    · exact readFraction_inRange _ _ _ _
    · rw [readTail_letter hc]
      exact readExponent_inRange _ _ _ _
  · rw [readTail_other hs]
    split
    · rintro n rest ⟨⟩
      exact integerNumber_inRange negative h
    · exact signedReal_inRange _ _ _

/-- A significand stays a 64-bit integer. -/
theorem appendDigits_le {m : Nat} (h : m ≤ greatestWord) (ds : List Nat) :
    (appendDigits m ds).1 ≤ greatestWord := by
  induction ds generalizing m with
  | nil => exact h
  | cons d ds ih =>
    rw [appendDigits]
    split
    · rename_i hle
      exact ih hle
    · exact h

theorem number_inRange (negative : Bool) (s : List Symbol) :
    ReadsInRange (number negative s) := by
  cases s with
  | nil => exact readsInRange_error _
  | cons x s =>
    cases hx : digit? x with
    | none =>
      simp only [number, hx]
      exact readsInRange_error _
    | some d =>
      cases d with
      | zero =>
        by_cases hs : EndsDigits s
        · rw [number_zero hx hs]
          exact readTail_inRange negative (Nat.zero_le _) 0 s
        · have hfault := number_zero_digit hx hs negative
          intro n rest h
          rw [h] at hfault
          cases hfault
      | succ d =>
        rw [number_digits hx]
        have hd := digit?_le hx
        have hgreatest : greatestWord = 18446744073709551615 := rfl
        exact readTail_inRange negative (appendDigits_le (by omega) _) _ _

/-! ## Arrays and objects -/

/-- What holds of each item holds of each item of a list. -/
theorem forall_mem_itemsAfter {α : Type} {item : Reader α} {P : α → Prop}
    (hitem : ∀ s a rest, item s = .ok (a, rest) → P a) (rounds : Nat) :
    ∀ {acc : List α} {s : List Symbol} {as : List α} {rest : List Symbol},
      itemsAfter item rounds acc s = .ok (as, rest) → (∀ a ∈ acc, P a) → ∀ a ∈ as, P a := by
  induction rounds with
  | zero => intro acc s as rest h; cases h
  | succ rounds ih =>
    intro acc s as rest h hacc
    rw [itemsAfter] at h
    split at h
    · cases h
    · cases h
      exact fun a ha => hacc a (List.mem_reverse.1 ha)
    · split at h
      · cases h
      · cases h
      · split at h
        · cases h
        · rename_i hread
          exact ih h (List.forall_mem_cons.2 ⟨hitem _ _ _ hread, hacc⟩)
    · cases h

theorem forall_mem_items {α : Type} {item : Reader α} {P : α → Prop}
    (hitem : ∀ s a rest, item s = .ok (a, rest) → P a) {rounds : Nat} {s : List Symbol}
    {as : List α} {rest : List Symbol} (h : items rounds item s = .ok (as, rest)) :
    ∀ a ∈ as, P a := by
  rw [items] at h
  split at h
  · cases h
  · cases h
    nofun
  · split at h
    · cases h
    · rename_i hread
      exact forall_mem_itemsAfter hitem rounds h
        (List.forall_mem_singleton.2 (hitem _ _ _ hread))

/-- The members of an object keep their order, and what holds of each value holds of theirs. -/
theorem formed_membersAfter {total : Nat} {item : Reader Value} {P : Value → Prop}
    (hitem : ∀ s v rest, item s = .ok (v, rest) → P v) (rounds : Nat) :
    ∀ {first : Bool} {acc : List (String × Value)} {s : List Symbol}
      {members : List (String × Value)} {rest : List Symbol},
      membersAfter total item rounds first acc s = .ok (members, rest) → SortedKeys acc →
        (∀ m ∈ acc, P m.2) → SortedKeys members ∧ ∀ m ∈ members, P m.2 := by
  induction rounds with
  | zero => intro first acc s members rest h; cases h
  | succ rounds ih =>
    intro first acc s members rest h hsorted hacc
    rw [membersAfter] at h
    split at h
    · cases h
    · cases h
      exact ⟨hsorted, hacc⟩
    · split at h
      · cases h
      · split at h
        · cases h
        · split at h
          · cases h
          · rename_i key _ _ _ _ v _ hread
            refine ih h (sortedKeys_insertMember hsorted _ _) fun m hm => ?_
            obtain rfl | hm := mem_insertMember hm
            · exact hitem _ _ _ hread
            · exact hacc m hm

/-! ## Values -/

theorem word_eq_ok {w : Value} {r : Except Fault (List Symbol)} {v : Value} {rest : List Symbol}
    (h : r.map (fun rest => (w, rest)) = .ok (v, rest)) : v = w := by
  cases r with
  | error => cases h
  | ok p => cases h; rfl

theorem formed_of_valueHere {total depth : Nat} {nested : Option (Reader Value)}
    (hnested : ∀ item, nested = some item →
      ∃ d, depth = d + 1 ∧ ∀ s v rest, item s = .ok (v, rest) → Formed d v)
    {s : List Symbol} {v : Value} {rest : List Symbol}
    (h : valueHere total nested s = .ok (v, rest)) : Formed depth v := by
  rw [valueHere.eq_def] at h
  split at h
  · cases h
  · rw [word_eq_ok h]
    exact .null depth
  · rw [word_eq_ok h]
    exact .bool depth true
  · rw [word_eq_ok h]
    exact .bool depth false
  · obtain ⟨n, hn, rfl⟩ := asValue_eq_ok h
    exact .number depth (number_inRange _ _ n _ hn)
  · obtain ⟨text, -, rfl⟩ := asValue_eq_ok h
    exact .string depth text
  · split at h
    · cases h
    · rename_i item
      obtain ⟨d, rfl, hitem⟩ := hnested item rfl
      obtain ⟨items, hitems, rfl⟩ := asValue_eq_ok h
      exact .array (forall_mem_items hitem hitems)
  · split at h
    · cases h
    · rename_i item
      obtain ⟨d, rfl, hitem⟩ := hnested item rfl
      obtain ⟨members, hmembers, rfl⟩ := asValue_eq_ok h
      obtain ⟨hsorted, hformed⟩ := formed_membersAfter hitem total hmembers
        (by exact List.Pairwise.nil) nofun
      exact .object hsorted hformed
  · split at h
    · obtain ⟨n, hn, rfl⟩ := asValue_eq_ok h
      exact .number depth (number_inRange _ _ n _ hn)
    · cases h

/-- **A value that is read is formed.** -/
theorem formed_of_value {total depth : Nat} : ∀ {s : List Symbol} {v : Value} {rest : List Symbol},
    value total depth s = .ok (v, rest) → Formed depth v := by
  induction depth with
  | zero => exact fun h => @formed_of_valueHere total 0 none nofun _ _ _ h
  | succ depth ih =>
    intro s v rest h
    refine formed_of_valueHere ?_ h
    rintro item ⟨⟩
    exact ⟨depth, rfl, fun s v rest h => ih h⟩

theorem formed_of_parse? {text : String} {v : Value} (h : parse? text = some v) :
    Formed depthLimit v := by
  rw [parse?_eq] at h
  obtain ⟨⟨w, rest⟩, hread, hw⟩ := Option.bind_eq_some_iff.1 h
  split at hw
  · cases hw
    exact formed_of_value (eq_ok_of_toOption hread)
  · cases hw

/-! ## Nesting -/

mutual

/-- How many arrays and objects of a value are open at once. -/
def Value.nesting : Value → Nat
  | .null | .bool _ | .number _ | .string _ => 0
  | .array items => nestingOfItems items + 1
  | .object members => nestingOfMembers members + 1

def nestingOfItems : List Value → Nat
  | [] => 0
  | v :: rest => max v.nesting (nestingOfItems rest)

def nestingOfMembers : List (String × Value) → Nat
  | [] => 0
  | (_, v) :: rest => max v.nesting (nestingOfMembers rest)

end

theorem nestingOfItems_le_iff {items : List Value} {n : Nat} :
    nestingOfItems items ≤ n ↔ ∀ v ∈ items, v.nesting ≤ n := by
  induction items with
  | nil => simp [nestingOfItems]
  | cons v items ih => rw [nestingOfItems, Nat.max_le, ih, List.forall_mem_cons]

theorem nestingOfMembers_le_iff {members : List (String × Value)} {n : Nat} :
    nestingOfMembers members ≤ n ↔ ∀ m ∈ members, m.2.nesting ≤ n := by
  induction members with
  | nil => simp [nestingOfMembers]
  | cons m members ih => rw [nestingOfMembers, Nat.max_le, ih, List.forall_mem_cons]

/-- **What a formed value needs of a reader** is that it reads as deep as the value is nested. -/
theorem Formed.iff_nesting_le {depth n : Nat} {v : Value} (h : Formed depth v) :
    Formed n v ↔ v.nesting ≤ n := by
  induction h generalizing n with
  | null => exact iff_of_true (.null n) (Nat.zero_le n)
  | bool _ b => exact iff_of_true (.bool n b) (Nat.zero_le n)
  | number _ h => exact iff_of_true (.number n h) (Nat.zero_le n)
  | string _ s => exact iff_of_true (.string n s) (Nat.zero_le n)
  | @array depth items h ih =>
    cases n with
    | zero => exact iff_of_false nofun (Nat.not_succ_le_zero _)
    | succ n =>
      rw [Value.nesting, Nat.succ_le_succ_iff, nestingOfItems_le_iff]
      constructor
      · intro hn v hv
        cases hn with
        | array hitems => exact (ih v hv).1 (hitems v hv)
      · exact fun hitems => .array fun v hv => (ih v hv).2 (hitems v hv)
  | @object depth members hsorted h ih =>
    cases n with
    | zero => exact iff_of_false nofun (Nat.not_succ_le_zero _)
    | succ n =>
      rw [Value.nesting, Nat.succ_le_succ_iff, nestingOfMembers_le_iff]
      constructor
      · intro hn m hm
        cases hn with
        | object _ hmembers => exact (ih m hm).1 (hmembers m hm)
      · exact fun hmembers => .object hsorted fun m hm => (ih m hm).2 (hmembers m hm)

end ApiConsole.Json
