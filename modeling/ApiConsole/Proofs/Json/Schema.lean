import ApiConsole.Json.Schema
import ApiConsole.Proofs.Json.RoundTrip
import ApiConsole.Proofs.Text.Utf8
import ApiConsole.Proofs.Timestamp

/-!
# Reading back documents of a known shape

A datum that fits a schema is read back from its indented text (`Schema.read_encode`), whatever
follows the text and at every level of indentation. The induction is on the schema; the members of a
record are read in the order of its fields (`Fields.read_encode`), and each finds its own field since
no two fields share a name. A value that fits the schema of its type and is rebuilt from its data
comes back from what was written of it, as text and as bytes (`Kept.comesBack`).
-/
namespace ApiConsole.Json

open Text

/-! ## Data that fit -/

/-- The names of the fields. -/
def Fields.names : Fields → List String
  | .nil => []
  | .cons name _ _ rest => name :: rest.names

mutual

/-- Whether a datum fits a schema, with at most `depth` arrays and objects open at once. What is
written as null cannot be told from nothing. -/
def Schema.Fits : Schema → Nat → Datum → Prop
  | .text, _, .text _ => True
  | .word _ bound, _, .word n => n ≤ bound ∧ n ≤ greatestWord
  | .timestamp, _, .timestamp t => t.InCalendar
  | .choice names, _, .choice name => name ∈ names
  | .any, depth, .any v => ReadsBack depth v
  | .optional _, _, .nothing => True
  | .optional inner, depth, .something d => inner.Fits depth d ∧ inner.encode d ≠ .null
  | .list inner, depth + 1, .list items => ∀ d ∈ items, inner.Fits depth d
  | .record _ fields, depth + 1, .record slots => fields.names.Nodup ∧ fields.Fit depth slots
  | _, _, _ => False

/-- Whether slots fit fields: only a field that may be missing from an object is absent. -/
def Fields.Fit : Fields → Nat → List (Option Datum) → Prop
  | .nil, _, [] => True
  | .cons _ _ schema rest, depth, some d :: slots => schema.Fits depth d ∧ rest.Fit depth slots
  | .cons _ absence _ rest, depth, none :: slots => absence ≠ .refused ∧ rest.Fit depth slots
  | _, _, _ => False

end

/-! ## Blanks in front -/

theorem readText_gap {gap : List Char} (h : IsGap gap) (total : Nat) (expected : String)
    (s : List Symbol) : readText total expected (symbolsOf gap ++ s) = readText total expected s := by
  unfold readText
  rw [skipBlanks_gap h]

/-- Every reader of a schema passes over blanks. -/
theorem Schema.read_gap {gap : List Char} (h : IsGap gap) (schema : Schema) (total depth : Nat)
    (s : List Symbol) : schema.read total depth (symbolsOf gap ++ s) = schema.read total depth s := by
  cases schema with
  | text => simp only [Schema.read, readText_gap h]
  | word name bound => simp only [Schema.read, readWord, skipBlanks_gap h]
  | timestamp => simp only [Schema.read, readTimestamp, readText_gap h]
  | choice names => simp only [Schema.read, readChoice, skipBlanks_gap h]
  | any => simp only [Schema.read, value_gap h]
  | optional inner => simp only [Schema.read, readOptional, skipBlanks_gap h]
  | list inner => simp only [Schema.read, readList, skipBlanks_gap h]
  | record title fields => simp only [Schema.read, readRecord, skipBlanks_gap h]

/-! ## Things without parts -/

theorem readText_quote {s : String} {total : Nat} (h : (quote s.toList).length < total)
    (expected : String) (rest : List Symbol) :
    readText total expected (symbolsOf (quote s.toList) ++ rest) = .ok (s, rest) := by
  have hsplit : symbolsOf (quote s.toList) ++ rest =
      .char '"' :: (symbolsOf (s.toList.flatMap escapeChar) ++ .char '"' :: rest) := by
    simp [quote]
  rw [hsplit, readText, skipBlanks_cons rfl]
  change string total _ = _
  rw [string_quote (length_lt_of_quote (Nat.le_of_lt h)), String.ofList_toList]

theorem number_nat {n : Nat} (h : n ≤ greatestWord) {rest : List Symbol} (hrest : EndsNumber rest) :
    number false (symbolsOf (Nat.toDigits 10 n) ++ rest) = .ok (.int n, rest) := by
  have hread := number_append hrest false (symbolsOf (Nat.toDigits 10 n))
  rw [number_toDigits false h] at hread
  exact eq_ok_of_toOption hread

theorem indented_nat (level n : Nat) : (Value.nat n).indented level = Nat.toDigits 10 n := by
  have hsign : ¬(n : Int) < 0 := Int.not_lt.2 (Int.natCast_nonneg n)
  rw [Value.nat, Value.indented, Number.text, intText, if_neg hsign, Int.natAbs_natCast]

theorem readWord_nat {n bound : Nat} (hbound : n ≤ bound) (hword : n ≤ greatestWord) (total : Nat)
    (name : String) {rest : List Symbol} (hrest : EndsNumber rest) :
    readWord total name bound (symbolsOf (Nat.toDigits 10 n) ++ rest) = .ok (n, rest) := by
  have hread := number_nat hword hrest
  obtain ⟨c, r, hcons, hc⟩ := (isNumeral_toDigits n).head
  have hminus : c ≠ '-' := ne_of_isDigit hc rfl
  have hrange : (decide ((0 : Int) ≤ n) && decide ((n : Int) ≤ bound)) = true := by
    simp only [Bool.and_eq_true, decide_eq_true_eq]
    omega
  rw [hcons, symbolsOf_cons, List.cons_append] at hread ⊢
  rw [readWord, skipBlanks_cons (isJsonBlank_of_isDigit hc)]
  split
  · rename_i heq
    cases heq
  · rename_i heq
    cases heq
    exact absurd rfl hminus
  · rename_i heq
    cases heq
    rw [if_pos (by rw [digit?_of_isDigit hc]; rfl), hread]
    exact if_pos hrange

theorem readChoice_quote {names : List String} {name : String} (h : name ∈ names) {total : Nat}
    (htotal : (quote name.toList).length < total) (depth : Nat) (rest : List Symbol) :
    readChoice total names depth (symbolsOf (quote name.toList) ++ rest) = .ok (name, rest) := by
  have hread := readText_quote htotal "variant identifier" rest
  have hcons : symbolsOf (quote name.toList) ++ rest = .char '"' ::
      (symbolsOf (name.toList.flatMap escapeChar ++ ['"']) ++ rest) := by simp [quote]
  rw [hcons] at hread ⊢
  rw [readChoice, skipBlanks_cons rfl]
  change readName total names _ = _
  rw [readName, hread]
  exact if_pos (List.contains_iff_mem.2 h)

/-! ## Lists -/

variable {total level depth : Nat}

theorem readList_texts {item : Reader Datum} {encode : Datum → Value} {items : List Datum}
    (hitem : ∀ d ∈ items, ∀ rest, EndsNumber rest →
      item (symbolsOf ((encode d).indented (level + 1)) ++ rest) = .ok (d, rest))
    (htotal : items.length < total) (rest : List Symbol) :
    readList total item (depth + 1)
        (symbolsOf ((Value.array (items.map encode)).indented level) ++ rest) =
      .ok (.list items, rest) := by
  cases items with
  | nil => rfl
  | cons d items =>
    have hread := items_texts item (fun d => (encode d).indented (level + 1)) some
      (isGap_newLine (level + 1)) (isGap_newLine level)
      (fun d _ => beginsItem_indented (encode d) (level + 1))
      (fun d hd rest hrest => congrArg Except.toOption (hitem d hd rest hrest))
      (Nat.lt_of_succ_lt htotal) rest
    rw [mapM_eq_some_self_iff.2 fun _ _ => rfl] at hread
    rw [List.map_cons, symbolsOf_array_cons, furtherTexts_map, readList, skipBlanks_cons rfl]
    simp only [eq_ok_of_toOption hread, bind, Except.bind]
    rfl

/-! ## Records -/

/-- The members of an object and the blanks behind them, the first one without a comma if no member
came before. -/
def membersText (first : Bool) (gap close : List Char) (text : Value → List Char) :
    List (String × Value) → List Char
  | [] => if first then [] else close
  | m :: members =>
    (if first then [] else [',']) ++ gap ++ memberText text m ++
      furtherTexts gap close (memberText text) members

theorem membersText_further (gap close : List Char) (text : Value → List Char)
    (members : List (String × Value)) :
    membersText false gap close text members =
      furtherTexts gap close (memberText text) members := by
  cases members <;> simp [membersText, furtherTexts]

theorem indented_object (level : Nat) (members : List (String × Value)) :
    (Value.object members).indented level =
      '\x7b' :: (membersText true (newLine (level + 1)) (newLine level) (·.indented (level + 1))
        members ++ ['\x7d']) := by
  cases members with
  | nil => rfl
  | cons m members =>
    rw [indented_object_cons]
    simp [membersText]

theorem nextKey_member {gap : List Char} (hgap : IsGap gap) (first : Bool) (rest : List Symbol) :
    nextKey first (symbolsOf ((if first then [] else [',']) ++ gap) ++ .char '"' :: rest) =
      .ok (.key rest) := by
  cases first with
  | true => exact nextKey_first hgap rest
  | false => exact nextKey_comma hgap rest

theorem firstMissing?_append {before after : List FieldReader} {done slots : List (Option Datum)}
    (hlength : done.length = before.length) (h : firstMissing? before done = none) :
    firstMissing? (before ++ after) (done ++ slots) = firstMissing? after slots := by
  induction before generalizing done with
  | nil =>
    rw [List.eq_nil_of_length_eq_zero hlength]
    rfl
  | cons f before ih =>
    cases done with
    | nil => cases hlength
    | cons slot done =>
      rw [firstMissing?] at h
      split at h
      · cases h
      · rename_i hpresent
        rw [List.cons_append, List.cons_append, firstMissing?, if_neg hpresent]
        exact ih (Nat.succ.inj hlength) h

/-- **One member fills the slot of its field.** -/
theorem objectFields_member {before after : List FieldReader} {f : FieldReader}
    {done pending : List (Option Datum)} (hlength : done.length = before.length)
    (hnew : ∀ g ∈ before, g.name ≠ f.name) {first : Bool} {s more rest : List Symbol} {d : Datum}
    (hs : nextKey first s =
      .ok (.key (symbolsOf (f.name.toList.flatMap escapeChar) ++ .char '"' :: .char ':' :: more)))
    (hname : f.name.toList.length < total) (hread : f.read more = .ok (d, rest)) (rounds : Nat) :
    objectFields total (before ++ f :: after) (rounds + 1) first (done ++ none :: pending) s =
      objectFields total (before ++ f :: after) rounds false (done ++ some d :: pending) rest := by
  have hcolon : colon (.char ':' :: more) = .ok more := by
    rw [colon, skipBlanks_cons rfl]
    rfl
  have hindex : (before ++ f :: after).findIdx? (·.name == f.name) = some before.length := by
    have hnone : before.findIdx? (·.name == f.name) = none := by
      rw [List.findIdx?_eq_none_iff]
      exact fun g hg => beq_false_of_ne (hnew g hg)
    rw [List.findIdx?_append, hnone, List.findIdx?_cons]
    simp
  have hfield : (before ++ f :: after)[before.length]? = some f := by simp
  have hslot : (done ++ none :: pending)[before.length]? = some none := by
    simp [← hlength]
  have hset : (done ++ none :: pending).set before.length (some d) = done ++ some d :: pending := by
    simp [← hlength]
  rw [objectFields]
  simp only [hs, bind, Except.bind, string_quote hname, String.ofList_toList, hindex, hslot, hfield,
    hcolon, hread, hset]
  rfl

/-- The text of one member is read, up to the members behind it. -/
theorem objectFields_text (f : FieldReader) {before after : List FieldReader}
    {done pending : List (Option Datum)} (hlength : done.length = before.length)
    (hnew : ∀ g ∈ before, g.name ≠ f.name) (hname : f.name.toList.length < total)
    {gap close : List Char} (hgap : IsGap gap) (hclose : IsGap close) {text : Value → List Char}
    {v : Value} {d : Datum}
    (hread : ∀ rest, EndsNumber rest →
      f.read (.char ' ' :: (symbolsOf (text v) ++ rest)) = .ok (d, rest))
    (members : List (String × Value)) (first : Bool) (rounds : Nat) (rest : List Symbol) :
    objectFields total (before ++ f :: after) (rounds + 1) first (done ++ none :: pending)
        (symbolsOf (membersText first gap close text ((f.name, v) :: members)) ++
          .char '\x7d' :: rest) =
      objectFields total (before ++ f :: after) rounds false (done ++ some d :: pending)
        (symbolsOf (membersText false gap close text members) ++ .char '\x7d' :: rest) := by
  have hvalue := hread _ (endsNumber_further (memberText text) gap hclose (c := '\x7d') (by decide)
    members rest)
  have hsplit : symbolsOf (membersText first gap close text ((f.name, v) :: members)) ++
      .char '\x7d' :: rest = symbolsOf ((if first then [] else [',']) ++ gap) ++ .char '"' ::
        (symbolsOf (f.name.toList.flatMap escapeChar) ++ .char '"' :: .char ':' :: .char ' ' ::
          (symbolsOf (text v) ++ (symbolsOf (furtherTexts gap close (memberText text) members) ++
            .char '\x7d' :: rest))) := by
    simp [membersText, memberText, quote]
  rw [hsplit, membersText_further]
  exact objectFields_member hlength hnew (nextKey_member hgap first _) hname hvalue rounds

/-! ## Schemas -/

theorem readOptional_something {read : Reader Datum} {v : Value} (hv : v ≠ .null) {d : Datum}
    {rest : List Symbol} (hread : read (symbolsOf (v.indented level) ++ rest) = .ok (d, rest)) :
    readOptional read (symbolsOf (v.indented level) ++ rest) = .ok (.something d, rest) := by
  obtain ⟨c, r, hcons, hblank, -, hnull⟩ := head_indented v level
  rw [hcons, symbolsOf_cons, List.cons_append] at hread ⊢
  rw [readOptional, skipBlanks_cons hblank]
  split
  · rename_i heq
    cases heq
    exact absurd (hnull rfl) hv
  · rw [hread]
    rfl

mutual

/-- **A datum that fits its schema is read back from its text**, whatever follows that. -/
theorem Schema.read_encode : ∀ (schema : Schema) {depth : Nat} {d : Datum}, schema.Fits depth d →
    ∀ {total level : Nat}, ((schema.encode d).indented level).length < total →
      ∀ {rest : List Symbol}, EndsNumber rest →
        schema.read total depth (symbolsOf ((schema.encode d).indented level) ++ rest) =
          .ok (d, rest)
  | .text, _, .text s, _, _, _, htotal, _, _ => by
    rw [Schema.encode, Value.indented] at htotal ⊢
    simp only [Schema.read, readText_quote htotal]
    rfl
  | .word name bound, _, .word n, h, total, _, _, _, hrest => by
    rw [Schema.encode, indented_nat]
    simp only [Schema.read, readWord_nat h.1 h.2 total name hrest]
    rfl
  | .timestamp, _, .timestamp t, h, _, _, htotal, _, _ => by
    rw [Schema.encode, Value.indented] at htotal ⊢
    simp only [Schema.read, readTimestamp, readText_quote htotal, bind, Except.bind,
      Timestamp.parse_text h]
    rfl
  | .choice names, depth, .choice name, h, _, _, htotal, _, _ => by
    rw [Schema.encode, Value.indented] at htotal ⊢
    simp only [Schema.read, readChoice_quote h htotal]
    rfl
  | .any, depth, .any v, h, total, level, htotal, rest, hrest => by
    have hread := value_indented h.formed level htotal hrest
    rw [h.reread] at hread
    rw [Schema.encode]
    simp only [Schema.read, eq_ok_of_toOption hread]
    rfl
  | .optional inner, _, .nothing, _, _, _, _, _, _ => rfl
  | .optional inner, depth, .something d, h, _, _, htotal, _, hrest =>
    readOptional_something h.2 (inner.read_encode h.1 htotal hrest)
  | .list inner, depth + 1, .list items, h, total, level, htotal, rest, _ => by
    obtain ⟨hlength, hitems⟩ := length_indented_array level (items.map inner.encode)
    rw [List.length_map] at hlength
    refine readList_texts (fun d hd rest hrest => ?_) (Nat.lt_trans hlength htotal) rest
    exact inner.read_encode (h d hd)
      (Nat.lt_trans (hitems _ (List.mem_map_of_mem hd)) htotal) hrest
  | .record title fields, depth + 1, .record slots, h, total, level, htotal, rest, _ => by
    obtain ⟨hlength, hmembers⟩ := length_indented_object level (fields.encode slots)
    have hread := fields.read_encode h.2
      (fun m hm => ⟨Nat.lt_trans (hmembers m hm).1 htotal, Nat.lt_trans (hmembers m hm).2 htotal⟩)
      [] [] h.1 rfl rfl (Nat.lt_trans hlength htotal) true rest
    have hsplit : symbolsOf ((Value.object (fields.encode slots)).indented level) ++ rest =
        .char '\x7b' :: (symbolsOf (membersText true (newLine (level + 1)) (newLine level)
          (·.indented (level + 1)) (fields.encode slots)) ++ .char '\x7d' :: rest) := by
      rw [indented_object]
      simp
    rw [Schema.encode, hsplit, Schema.read, readRecord, skipBlanks_cons rfl]
    simp only [List.nil_append] at hread
    simp only [Nat.add_sub_cancel, hread, bind, Except.bind]
    rfl

/-- **The members of a record are read field by field**: `before` are the fields that came earlier,
`done` what their slots hold. -/
theorem Fields.read_encode : ∀ (fields : Fields) {depth : Nat} {slots : List (Option Datum)},
    fields.Fit depth slots → ∀ {total level : Nat},
      (∀ m ∈ fields.encode slots, m.1.toList.length < total ∧
        (m.2.indented (level + 1)).length < total) →
      ∀ (before : List FieldReader) (done : List (Option Datum)),
        (before.map (·.name) ++ fields.names).Nodup → done.length = before.length →
        firstMissing? before done = none → ∀ {rounds : Nat},
        (fields.encode slots).length < rounds → ∀ (first : Bool) (rest : List Symbol),
          objectFields total (before ++ fields.readers total depth) rounds first
              (done ++ (fields.readers total depth).map fun _ => none)
              (symbolsOf (membersText first (newLine (level + 1)) (newLine level)
                (·.indented (level + 1)) (fields.encode slots)) ++ .char '\x7d' :: rest) =
            .ok (done ++ slots, rest)
  | .nil, _, [], _, total, level, _, before, done, _, _, hmissing, rounds, hrounds, first, rest => by
    obtain ⟨rounds, rfl⟩ := Nat.exists_eq_succ_of_ne_zero (Nat.ne_of_gt hrounds)
    have hgap : IsGap (if first then [] else newLine level) := by
      cases first with
      | true => exact nofun
      | false => exact isGap_newLine level
    simp only [Fields.encode, Fields.readers, membersText, List.map_nil, List.append_nil,
      objectFields, nextKey_end hgap, hmissing, bind, Except.bind]
    rfl
  | .cons name absence schema fields, depth, some d :: slots, h, total, level, hmembers, before,
      done, hnames, hlength, hmissing, rounds, hrounds, first, rest => by
    obtain ⟨rounds, rfl⟩ : ∃ n, rounds = n + 1 :=
      Nat.exists_eq_succ_of_ne_zero (Nat.ne_of_gt (Nat.zero_lt_of_lt hrounds))
    have hspace : IsGap [' '] := by rintro c hc; rw [List.mem_singleton.1 hc]; rfl
    rw [Fields.encode, List.forall_mem_cons] at hmembers
    have hfields := fields.read_encode h.2 hmembers.2
      (before ++ [⟨name, absence, schema.read total depth⟩]) (done ++ [some d])
      (by simpa [Fields.names] using hnames) (by simp [hlength])
      (by rw [firstMissing?_append hlength hmissing]; rfl)
      (Nat.lt_of_succ_lt_succ hrounds) false rest
    simp only [List.append_assoc, List.cons_append, List.nil_append] at hfields
    have hnew : ∀ g ∈ before, g.name ≠ name := fun g hg =>
      (List.nodup_append.1 hnames).2.2 _ (List.mem_map_of_mem hg) _ List.mem_cons_self
    have hread : ∀ rest, EndsNumber rest →
        schema.read total depth
          (.char ' ' :: (symbolsOf ((schema.encode d).indented (level + 1)) ++ rest)) =
            .ok (d, rest) := fun rest hrest =>
      (schema.read_gap hspace total depth _).trans (schema.read_encode h.1 hmembers.1.2 hrest)
    exact (objectFields_text ⟨name, absence, schema.read total depth⟩ hlength hnew hmembers.1.1
      (isGap_newLine (level + 1)) (isGap_newLine level) hread _ first rounds rest).trans hfields
  | .cons name absence schema fields, depth, none :: slots, h, total, level, hmembers, before,
      done, hnames, hlength, hmissing, rounds, hrounds, first, rest => by
    have hfields := fields.read_encode h.2 hmembers
      (before ++ [⟨name, absence, schema.read total depth⟩]) (done ++ [none])
      (by simpa [Fields.names] using hnames) (by simp [hlength])
      (by rw [firstMissing?_append hlength hmissing]; simp [firstMissing?, h.1]) hrounds first rest
    simp only [List.append_assoc, List.cons_append, List.nil_append] at hfields
    exact hfields

end

/-! ## Types with a schema -/

/-- A value that its data give back, and whose data fit the schema of its type. -/
structure Kept {α : Type} [Stored α] (a : α) : Prop where
  fits : (Stored.schema α).Fits depthLimit (Stored.toDatum a)
  back : Stored.ofDatum? (Stored.toDatum a) = some a

theorem Kept.readSymbols_write {α : Type} [Stored α] {a : α} (h : Kept a) :
    readSymbols α (symbolsOf (write a).toList) = .ok a := by
  have hsplit : symbolsOf (write a).toList = symbolsOf ((toValue a).indented 0) ++ [.char '\n'] := by
    simp [write, Value.pretty]
  have hlength : ((toValue a).indented 0).length < (symbolsOf (write a).toList).length + 1 := by
    rw [hsplit, List.length_append, length_symbolsOf]
    omega
  have hread : (Stored.schema α).read ((symbolsOf (write a).toList).length + 1) depthLimit
      (symbolsOf (write a).toList) = .ok (Stored.toDatum a, [.char '\n']) := by
    refine Eq.trans ?_ ((Stored.schema α).read_encode h.fits hlength (endsNumber_char (by decide) []))
    rw [hsplit]
    rfl
  have hblank : skipBlanks [.char '\n'] = [] := rfl
  unfold readSymbols document
  simp only [bind, Except.bind, hread, hblank, pure, Except.pure, Except.mapError, h.back]

/-- What is written of a value is read as that value, from the text and from the bytes of it. -/
structure ComesBack {α : Type} [Stored α] (a : α) : Prop where
  text : read α (write a) = .ok a
  bytes : readBytes α (write a).toUTF8.data.toList = .ok a

/-- **What is kept comes back.** -/
theorem Kept.comesBack {α : Type} [Stored α] {a : α} (h : Kept a) : ComesBack a where
  text := h.readSymbols_write
  bytes := by
    rw [readBytes, symbols_toUTF8]
    exact h.readSymbols_write

end ApiConsole.Json
