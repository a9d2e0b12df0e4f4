import ApiConsole.Proofs.Json.Numeral
import ApiConsole.Proofs.Json.Parts

/-!
# Reading back the indented form

What the reader makes of the indented form of a value: the value with each number replaced by what
its own text is read as (`parse?_pretty`). So the value itself comes back exactly if each of its
fractions does (`reread?_eq_self_iff`); one that comes back is built of parts that do (`ReadsBack`).
-/
namespace ApiConsole.Json

open Decimal Text

/-! ## Values -/

mutual

/-- A value with each number replaced by what its text is read as. -/
def Value.reread? : Value → Option Value
  | .number n => n.reread?.map .number
  | .array items => (rereadItems? items).map .array
  | .object members => (rereadMembers? members).map .object
  | .null => some .null
  | .bool b => some (.bool b)
  | .string s => some (.string s)

def rereadItems? : List Value → Option (List Value)
  | [] => some []
  | v :: rest => do
    let w ← v.reread?
    let ws ← rereadItems? rest
    pure (w :: ws)

def rereadMembers? : List (String × Value) → Option (List (String × Value))
  | [] => some []
  | (k, v) :: rest => do
    let w ← v.reread?
    let ws ← rereadMembers? rest
    pure ((k, w) :: ws)

end

theorem rereadItems?_eq (items : List Value) : rereadItems? items = items.mapM Value.reread? := by
  induction items with
  | nil => rfl
  | cons v items ih => rw [rereadItems?, ih, List.mapM_cons]

theorem rereadMembers?_eq (members : List (String × Value)) :
    rereadMembers? members = members.mapM fun m => m.2.reread?.map (m.1, ·) := by
  induction members with
  | nil => rfl
  | cons m members ih =>
    rw [rereadMembers?, ih, List.mapM_cons]
    cases m.2.reread? <;> rfl

/-! ## The indented form -/

theorem isGap_newLine (level : Nat) : IsGap (newLine level) := by
  intro c hc
  obtain rfl | hc := List.mem_cons.1 hc
  · rfl
  · rw [List.eq_of_mem_replicate hc]
    rfl

theorem indented_array_cons (level : Nat) (v : Value) (rest : List Value) :
    (Value.array (v :: rest)).indented level =
      '[' :: (newLine (level + 1) ++ v.indented (level + 1) ++
        furtherTexts (newLine (level + 1)) (newLine level) (·.indented (level + 1)) rest ++ [']']) := by
  have hitems : ∀ (rest : List Value) (v : Value) (level : Nat), indentedItems level (v :: rest) =
      newLine level ++ v.indented level ++
        rest.flatMap fun w => ',' :: (newLine level ++ w.indented level) := by
    intro rest
    induction rest with
    | nil => intro v level; simp [indentedItems]
    | cons w rest ih => intro v level; simp [indentedItems, ih w level]
  rw [Value.indented, hitems]
  simp [furtherTexts]

theorem indented_object_cons (level : Nat) (m : String × Value) (rest : List (String × Value)) :
    (Value.object (m :: rest)).indented level =
      '\x7b' :: (newLine (level + 1) ++ memberText (·.indented (level + 1)) m ++
        furtherTexts (newLine (level + 1)) (newLine level) (memberText (·.indented (level + 1))) rest ++
          ['\x7d']) := by
  have hmembers : ∀ (rest : List (String × Value)) (m : String × Value) (level : Nat),
      indentedMembers level (m :: rest) = newLine level ++ memberText (·.indented level) m ++
        rest.flatMap fun m => ',' :: (newLine level ++ memberText (·.indented level) m) := by
    intro rest
    induction rest with
    | nil => intro m level; simp [indentedMembers, memberText]
    | cons w rest ih => intro m level; simp [indentedMembers, memberText, ih w level]
  rw [Value.indented, hmembers]
  simp [furtherTexts]

/-- The text of a value begins with no blank and no closing bracket; only null begins as it does. -/
theorem head_indented (v : Value) (level : Nat) :
    ∃ c r, v.indented level = c :: r ∧ isJsonBlank (.char c) = false ∧ c ≠ ']' ∧
      (c = 'n' → v = .null) := by
  cases v with
  | null => exact ⟨'n', _, rfl, rfl, by decide, fun _ => rfl⟩
  | bool b => cases b <;> exact ⟨_, _, rfl, rfl, by decide, nofun⟩
  | string s => exact ⟨'"', _, rfl, rfl, by decide, nofun⟩
  | array items => exact ⟨'[', _, rfl, rfl, by decide, nofun⟩
  | object members => exact ⟨'\x7b', _, rfl, rfl, by decide, nofun⟩
  | number n =>
    obtain ⟨negative, t, ht, htext⟩ := exists_numeral n
    rw [Value.indented, htext]
    cases negative with
    | true => exact ⟨'-', t, rfl, rfl, by decide, nofun⟩
    | false =>
      obtain ⟨c, r, rfl, hc⟩ := ht.head
      exact ⟨c, r, rfl, isJsonBlank_of_isDigit hc, ne_of_isDigit hc rfl,
        fun hn => absurd hn (ne_of_isDigit hc rfl)⟩

theorem beginsItem_indented (v : Value) (level : Nat) : BeginsItem (v.indented level) := by
  obtain ⟨c, r, hcons, hblank, hbracket, -⟩ := head_indented v level
  exact ⟨c, r, hcons, hblank, hbracket⟩

/-! ## Reading it back -/

theorem value_gap {gap : List Char} (h : IsGap gap) (total depth : Nat) (s : List Symbol) :
    value total depth (symbolsOf gap ++ s) = value total depth s := by
  rw [value_eq, value_eq, skipBlanks_gap h]

theorem length_le_length_flatMap {α β : Type} {f : α → List β} (h : ∀ a, f a ≠ []) (s : List α) :
    s.length ≤ (s.flatMap f).length := by
  induction s with
  | nil => exact Nat.le_refl 0
  | cons a s ih =>
    have := List.length_pos_iff.2 (h a)
    simp only [List.flatMap_cons, List.length_append, List.length_cons]
    omega

theorem escapeChar_ne_nil (c : Char) : escapeChar c ≠ [] := by
  unfold escapeChar
  repeat' split
  all_goals exact List.cons_ne_nil _ _

theorem length_lt_of_quote {s : List Char} {total : Nat} (h : (quote s).length ≤ total) :
    s.length < total := by
  have := length_le_length_flatMap escapeChar_ne_nil s
  simp only [quote, List.length_cons, List.length_append, List.length_nil] at h
  omega

theorem value_string {s : String} {total : Nat} (h : s.toList.length < total) (depth : Nat)
    (rest : List Symbol) :
    value total depth (symbolsOf (quote s.toList) ++ rest) = .ok (.string s, rest) := by
  have hsplit : symbolsOf (quote s.toList) ++ rest =
      .char '"' :: (symbolsOf (s.toList.flatMap escapeChar) ++ .char '"' :: rest) := by
    simp [quote]
  rw [value_eq, hsplit, skipBlanks_cons rfl]
  change asValue .string (string total _) = _
  rw [string_quote h, String.ofList_toList]
  rfl

theorem length_furtherTexts {α : Type} (gap close : List Char) (text : α → List Char)
    (as : List α) : as.length ≤ (furtherTexts gap close text as).length := by
  have := length_le_length_flatMap (f := fun a => ',' :: (gap ++ text a)) (by simp) as
  rw [furtherTexts, List.length_append]
  omega

theorem length_le_furtherTexts {α : Type} (gap close : List Char) (text : α → List Char)
    {as : List α} {a : α} (h : a ∈ as) :
    (text a).length ≤ (furtherTexts gap close text as).length := by
  obtain ⟨before, after, rfl⟩ := List.append_of_mem h
  simp only [furtherTexts, List.flatMap_append, List.flatMap_cons, List.length_append,
    List.length_cons]
  omega

/-- An array is longer than the list of its items, and than each of them. -/
theorem length_indented_array (level : Nat) (items : List Value) :
    items.length < ((Value.array items).indented level).length ∧
      ∀ v ∈ items, (v.indented (level + 1)).length < ((Value.array items).indented level).length := by
  cases items with
  | nil => exact ⟨Nat.zero_lt_succ _, List.forall_mem_nil _⟩
  | cons v items =>
    have hlength := length_furtherTexts (newLine (level + 1)) (newLine level)
      (fun w : Value => w.indented (level + 1)) items
    rw [indented_array_cons]
    simp only [List.length_cons, List.length_append, List.forall_mem_cons]
    refine ⟨by omega, by omega, fun w hw => ?_⟩
    have := length_le_furtherTexts (newLine (level + 1)) (newLine level)
      (fun w : Value => w.indented (level + 1)) hw
    omega

/-- An object is longer than the list of its members, and than each key and each value. -/
theorem length_indented_object (level : Nat) (members : List (String × Value)) :
    members.length < ((Value.object members).indented level).length ∧
      ∀ m ∈ members, m.1.toList.length < ((Value.object members).indented level).length ∧
        (m.2.indented (level + 1)).length < ((Value.object members).indented level).length := by
  have htext : ∀ m : String × Value,
      m.1.toList.length ≤ (memberText (·.indented (level + 1)) m).length ∧
        (m.2.indented (level + 1)).length ≤ (memberText (·.indented (level + 1)) m).length := by
    intro m
    have := length_lt_of_quote (Nat.le_refl (quote m.1.toList).length)
    simp only [memberText, List.length_append, List.length_cons]
    omega
  cases members with
  | nil => exact ⟨Nat.zero_lt_succ _, List.forall_mem_nil _⟩
  | cons m members =>
    have hlength := length_furtherTexts (newLine (level + 1)) (newLine level)
      (memberText (·.indented (level + 1))) members
    rw [indented_object_cons]
    simp only [List.length_cons, List.length_append, List.forall_mem_cons]
    have hm := htext m
    refine ⟨by omega, by omega, fun w hw => ?_⟩
    have hw' := length_le_furtherTexts (newLine (level + 1)) (newLine level)
      (memberText (·.indented (level + 1))) hw
    have := htext w
    omega

theorem symbolsOf_array_cons (level : Nat) (v : Value) (items : List Value) (rest : List Symbol) :
    symbolsOf ((Value.array (v :: items)).indented level) ++ rest =
      .char '[' :: (symbolsOf (newLine (level + 1) ++ v.indented (level + 1)) ++
        (symbolsOf (furtherTexts (newLine (level + 1)) (newLine level)
          (fun w : Value => w.indented (level + 1)) items) ++ .char ']' :: rest)) := by
  rw [indented_array_cons]
  simp

/-- An array is read item by item. -/
theorem value_array {depth total level : Nat} {items : List Value}
    (hitem : ∀ w ∈ items, ∀ rest, EndsNumber rest →
      (value total depth (symbolsOf (w.indented (level + 1)) ++ rest)).toOption =
        w.reread?.map (·, rest))
    (htotal : items.length < total) (rest : List Symbol) :
    (value total (depth + 1) (symbolsOf ((Value.array items).indented level) ++ rest)).toOption =
      (Value.array items).reread?.map (·, rest) := by
  cases items with
  | nil => rfl
  | cons v items =>
    have hread := items_texts (value total depth) (fun w : Value => w.indented (level + 1))
      Value.reread? (isGap_newLine (level + 1))
      (isGap_newLine level) (fun w _ => beginsItem_indented w _) hitem
      (Nat.lt_of_succ_lt htotal) rest
    rw [symbolsOf_array_cons, value_eq, skipBlanks_cons rfl]
    change (asValue .array (Json.items total (value total depth) _)).toOption = _
    rw [toOption_asValue, hread, Value.reread?, rereadItems?_eq]
    cases (v :: items).mapM Value.reread? <;> rfl

/-- An object is read member by member. -/
theorem value_object {depth total level : Nat} {members : List (String × Value)}
    (hsorted : SortedKeys members) (hkeys : ∀ m ∈ members, m.1.toList.length < total)
    (hitem : ∀ m ∈ members, ∀ rest, EndsNumber rest →
      (value total depth (symbolsOf (m.2.indented (level + 1)) ++ rest)).toOption =
        m.2.reread?.map (·, rest))
    (htotal : members.length < total) (rest : List Symbol) :
    (value total (depth + 1) (symbolsOf ((Value.object members).indented level) ++ rest)).toOption =
      (Value.object members).reread?.map (·, rest) := by
  obtain ⟨total, rfl⟩ := Nat.exists_eq_succ_of_ne_zero (Nat.ne_of_gt (Nat.zero_lt_of_lt htotal))
  cases members with
  | nil => rfl
  | cons m members =>
    have hspace : IsGap [' '] := by rintro c hc; rw [List.mem_singleton.1 hc]; rfl
    have hread := membersAfter_first (value (total + 1) depth)
      (fun w : Value => w.indented (level + 1)) Value.reread? (isGap_newLine (level + 1))
      (isGap_newLine level) hkeys hsorted
      (fun m hm rest hrest =>
        (congrArg Except.toOption (value_gap hspace ..)).trans (hitem m hm rest hrest))
      (Nat.lt_of_succ_lt_succ htotal) rest
    have hsplit : symbolsOf ((Value.object (m :: members)).indented level) ++ rest =
        .char '\x7b' :: (symbolsOf (newLine (level + 1) ++ memberText (·.indented (level + 1)) m) ++
          (symbolsOf (furtherTexts (newLine (level + 1)) (newLine level)
            (memberText fun w : Value => w.indented (level + 1)) members) ++
              .char '\x7d' :: rest)) := by
      rw [indented_object_cons]
      simp
    rw [hsplit, value_eq, skipBlanks_cons rfl]
    change (asValue .object (membersAfter (total + 1) (value (total + 1) depth) (total + 1) true []
      _)).toOption = _
    rw [toOption_asValue, hread, Value.reread?, rereadMembers?_eq]
    cases (m :: members).mapM fun m => m.2.reread?.map (m.1, ·) <;> rfl

/-- **What the reader makes of the indented form of a value**, whatever follows it. -/
theorem value_indented {depth : Nat} {v : Value} (h : Formed depth v) {total : Nat} (level : Nat)
    (htotal : (v.indented level).length < total) {rest : List Symbol} (hrest : EndsNumber rest) :
    (value total depth (symbolsOf (v.indented level) ++ rest)).toOption =
      v.reread?.map (·, rest) := by
  induction h generalizing level rest with
  | null depth => rw [value_eq]; rfl
  | bool depth b => cases b <;> (rw [value_eq]; rfl)
  | number depth h =>
    rw [Value.indented, value_text _ hrest, Value.reread?, Option.map_map]
    rfl
  | string depth s =>
    rw [Value.indented, value_string (length_lt_of_quote (Nat.le_of_lt htotal))]
    rfl
  | @array depth items h ih =>
    obtain ⟨hlength, hitems⟩ := length_indented_array level items
    exact value_array
      (fun w hw rest hrest => ih w hw (level + 1) (Nat.lt_trans (hitems w hw) htotal) hrest)
      (Nat.lt_trans hlength htotal) rest
  | @object depth members hsorted h ih =>
    obtain ⟨hlength, hmembers⟩ := length_indented_object level members
    exact value_object hsorted (fun m hm => Nat.lt_trans (hmembers m hm).1 htotal)
      (fun m hm rest hrest => ih m hm (level + 1) (Nat.lt_trans (hmembers m hm).2 htotal) hrest)
      (Nat.lt_trans hlength htotal) rest

/-- **What the indented form of a value is read as**, at every level. -/
theorem parse?_indented {v : Value} (h : Formed depthLimit v) (level : Nat) :
    parse? (String.ofList (v.indented level)) = v.reread? := by
  have hread := value_indented h level (Nat.lt_succ_self _) endsNumber_nil
  rw [List.append_nil] at hread
  rw [parse?_eq, String.toList_ofList, hread]
  cases v.reread? <;> rfl

theorem parse?_pretty {v : Value} (h : Formed depthLimit v) : parse? v.pretty = v.reread? :=
  parse?_indented h 0

/-! ## Values that come back -/

/-- A number stands in a value. -/
inductive HasNumber (n : Number) : Value → Prop where
  | here : HasNumber n (.number n)
  | item {items : List Value} {v : Value} (hv : v ∈ items) (h : HasNumber n v) :
      HasNumber n (.array items)
  | member {members : List (String × Value)} {m : String × Value} (hm : m ∈ members)
      (h : HasNumber n m.2) : HasNumber n (.object members)

/-- Each binary fraction in a value is what its own text is read as. -/
def Value.Readable (v : Value) : Prop :=
  ∀ x, HasNumber (.real x) v → parse? (String.ofList (realText x)) = some (.number (.real x))

theorem reread?_eq_some_iff {n m : Number} :
    n.reread? = some m ↔ parse? (String.ofList n.text) = some (.number m) := by
  unfold Number.reread?
  split
  · rename_i k hk
    rw [hk]
    simp
  · rename_i hother
    refine iff_of_false (by simp) fun h => ?_
    exact hother m h

theorem mapM_eq_some_self_iff {α : Type} {f : α → Option α} {as : List α} :
    as.mapM f = some as ↔ ∀ a ∈ as, f a = some a := by
  induction as with
  | nil => exact iff_of_true rfl nofun
  | cons a as ih =>
    rw [List.mapM_cons, List.forall_mem_cons, ← ih]
    constructor
    · intro h
      obtain ⟨b, hb, hrest⟩ := Option.bind_eq_some_iff.1 h
      obtain ⟨bs, hbs, hcons⟩ := Option.bind_eq_some_iff.1 hrest
      cases hcons
      exact ⟨hb, hbs⟩
    · rintro ⟨ha, has⟩
      rw [ha, has]
      rfl

/-- **A value comes back exactly if its fractions do.** -/
theorem reread?_eq_self_iff {depth : Nat} {v : Value} (h : Formed depth v) :
    v.reread? = some v ↔ v.Readable := by
  induction h with
  | null => exact iff_of_true rfl (by rintro x ⟨⟩)
  | bool => exact iff_of_true rfl (by rintro x ⟨⟩)
  | string => exact iff_of_true rfl (by rintro x ⟨⟩)
  | @number depth n hn =>
    have hreread : (Value.number n).reread? = some (.number n) ↔ n.reread? = some n := by
      simp [Value.reread?]
    rw [hreread]
    cases n with
    | int n => exact iff_of_true (reread?_int hn) (by rintro x ⟨⟩)
    | real x =>
      rw [reread?_eq_some_iff]
      constructor
      · rintro h y ⟨⟩
        exact h
      · exact fun h => h x .here
  | @array depth items h ih =>
    have hitems : (Value.array items).reread? = some (.array items) ↔
        ∀ v ∈ items, v.reread? = some v := by
      rw [← mapM_eq_some_self_iff, Value.reread?, rereadItems?_eq]
      simp
    rw [hitems]
    constructor
    · rintro hall x (_ | ⟨hv, hx⟩)
      exact (ih _ hv).1 (hall _ hv) x hx
    · exact fun hall v hv => (ih v hv).2 fun x hx => hall x (.item hv hx)
  | @object depth members hsorted h ih =>
    have hmembers : (Value.object members).reread? = some (.object members) ↔
        ∀ m ∈ members, m.2.reread? = some m.2 := by
      have hpair : ∀ m : String × Value,
          m.2.reread?.map (m.1, ·) = some m ↔ m.2.reread? = some m.2 := by
        rintro ⟨k, v⟩
        simp
      simp only [← hpair, ← mapM_eq_some_self_iff]
      rw [Value.reread?, rereadMembers?_eq]
      simp
    rw [hmembers]
    constructor
    · rintro hall x (_ | _ | ⟨hm, hx⟩)
      exact (ih _ hm).1 (hall _ hm) x hx
    · exact fun hall m hm => (ih m hm).2 fun x hx => hall x (.member hm hx)

/-! ## Building values that come back -/

/-- A value that its indented form is read as. -/
structure ReadsBack (depth : Nat) (v : Value) : Prop where
  formed : Formed depth v
  reread : v.reread? = some v

theorem ReadsBack.parse?_pretty {v : Value} (h : ReadsBack depthLimit v) :
    parse? v.pretty = some v := (Json.parse?_pretty h.formed).trans h.reread

@[simp] theorem readsBack_bool (depth : Nat) (b : Bool) : ReadsBack depth (.bool b) :=
  ⟨.bool depth b, rfl⟩

@[simp] theorem readsBack_string (depth : Nat) (s : String) : ReadsBack depth (.string s) :=
  ⟨.string depth s, rfl⟩

theorem readsBack_int (depth : Nat) {n : Int} (h : (Number.int n).InRange) :
    ReadsBack depth (.number (.int n)) := by
  refine ⟨.number depth h, ?_⟩
  rw [Value.reread?, reread?_int h]
  rfl

theorem readsBack_array {depth : Nat} {items : List Value} (h : ∀ v ∈ items, ReadsBack depth v) :
    ReadsBack (depth + 1) (.array items) := by
  refine ⟨.array fun v hv => (h v hv).formed, ?_⟩
  rw [Value.reread?, rereadItems?_eq, mapM_eq_some_self_iff.2 fun v hv => (h v hv).reread]
  rfl

theorem readsBack_ofMembers {depth : Nat} {members : List (String × Value)}
    (h : ∀ m ∈ members, ReadsBack depth m.2) : ReadsBack (depth + 1) (.ofMembers members) := by
  have hsorted : ∀ m ∈ Value.sortedMembers members, ReadsBack depth m.2 :=
    fun m hm => h m (mem_sortedMembers hm)
  refine ⟨.object (sortedKeys_sortedMembers members) fun m hm => (hsorted m hm).formed, ?_⟩
  have hself : ∀ m ∈ Value.sortedMembers members, m.2.reread?.map (m.1, ·) = some m := by
    intro m hm
    rw [(hsorted m hm).reread]
    rfl
  rw [Value.ofMembers, Value.reread?, rereadMembers?_eq, mapM_eq_some_self_iff.2 hself]
  rfl

end ApiConsole.Json
