import ApiConsole.Text.Basic
import ApiConsole.Text.Quoted
import Mathlib.Data.List.DropRight

/-!
# The pieces of a script

A reader of scripts for browsers that finds out what belongs together: texts in quotation marks, and
brackets with what stands between them. It fails on brackets that do not match, on texts that do not
end on their line, and on comments, regular expressions and templates, so that in a script that it
accepts every bracket and every comma outside the texts means what it says. A script can be put together
again from its pieces (`source_of_reads`).

On the pieces of a script that waits for a call of `fetch` the arguments of the call can be told apart,
and the properties of its options (`fetchCall?`). Properties on lines of their own are found as they were
written (`ofArguments?_lines`).
-/
namespace ApiConsole.Fetch

open Text

/-! ## Pieces -/

/-- A piece of a script: a character, a text with its quotation marks, or brackets with what stands
between them. -/
inductive Piece where
  | char (c : Char)
  | quoted (s : List Char)
  | group (opening : Char) (inside : List Piece)

/-- The bracket that closes a bracket. -/
def closing? : Char → Option Char
  | '(' => some ')'
  | '[' => some ']'
  | '\x7b' => some '\x7d'
  | _ => none

theorem closing?_eq_some_iff {opening closing : Char} :
    closing? opening = some closing ↔
      opening = '(' ∧ closing = ')' ∨ opening = '[' ∧ closing = ']' ∨
        opening = '\x7b' ∧ closing = '\x7d' := by
  unfold closing?
  split <;> simp_all [eq_comm]

mutual

/-- The text of a piece. -/
def Piece.source : Piece → List Char
  | .char c => [c]
  | .quoted s => s
  | .group opening inside => opening :: source inside ++ (closing? opening).toList

/-- The text of a row of pieces. -/
def source : List Piece → List Char
  | [] => []
  | p :: ps => p.source ++ source ps

end

/-- The pieces of a word. -/
def word (s : String) : List Piece := s.toList.map .char

theorem source_append (ps qs : List Piece) : source (ps ++ qs) = source ps ++ source qs := by
  induction ps with
  | nil => rfl
  | cons p ps ih => rw [List.cons_append, source, source, ih, List.append_assoc]

theorem source_singleton (p : Piece) : source [p] = p.source := by
  rw [source, source, List.append_nil]

/-! ## The reader -/

/-- The text that has begun and not ended: none, one with its quotation mark, or one behind a
backslash. -/
inductive Pending where
  | none
  | quoted (mark : Char) (s : List Char)
  | escaped (mark : Char) (s : List Char)

/-- How far a script has come: the brackets that are open, the innermost first, each with the pieces in
front of it, and the pieces behind the last one. -/
structure Reader where
  outer : List (List Piece × Char)
  pieces : List Piece
  pending : Pending

namespace Reader

/-- Takes in a character outside the texts. -/
def put (r : Reader) (c : Char) : Option Reader :=
  if c == '"' || c == '\'' then some { r with pending := .quoted c [c] }
  else if c == '/' || c == '\x60' then none
  else if (closing? c).isSome then some ⟨(r.pieces, c) :: r.outer, [], .none⟩
  else if c == ')' || c == ']' || c == '\x7d' then
    match r.outer with
    | (before, opening) :: outer =>
      if closing? opening == some c then
        some ⟨outer, before ++ [.group opening r.pieces], .none⟩
      else none
    | [] => none
  else some { r with pieces := r.pieces ++ [.char c] }

/-- Takes in one character. -/
def step (r : Reader) (c : Char) : Option Reader :=
  match r.pending with
  | .none => r.put c
  | .quoted mark s =>
    if c == mark then some { r with pieces := r.pieces ++ [.quoted (s ++ [c])], pending := .none }
    else if c == '\\' then some { r with pending := .escaped mark (s ++ [c]) }
    else if c.toNat < 0x20 then none
    else some { r with pending := .quoted mark (s ++ [c]) }
  | .escaped mark s => some { r with pending := .quoted mark (s ++ [c]) }

def read (r : Reader) (s : List Char) : Option Reader := s.foldlM step r

/-- Nothing has been read. -/
def start : Reader := ⟨[], [], .none⟩

theorem read_append (r : Reader) (s t : List Char) :
    r.read (s ++ t) = (r.read s).bind (·.read t) := List.foldlM_append

theorem read_cons (r : Reader) (c : Char) (s : List Char) :
    r.read (c :: s) = (r.step c).bind (·.read s) := List.foldlM_cons

end Reader

/-- The pieces of a script, unless a text or a bracket is left open. -/
def pieces? (script : String) : Option (List Piece) :=
  (Reader.start.read script.toList).bind fun r =>
    match r.outer, r.pending with
    | [], .none => some r.pieces
    | _, _ => none

example : pieces? "f(\"a)\", [1]);" =
    some (word "f" ++ [.group '(' (.quoted "\"a)\"".toList :: word ", " ++ [.group '[' (word "1")])] ++
      word ";") := rfl

example : pieces? "f(]" = none ∧ pieces? "f(" = none ∧ pieces? "f(1 // )\n)" = none ∧
    pieces? "f(\"\n\")" = none := ⟨rfl, rfl, rfl, rfl⟩

/-! ## What has been read -/

/-- What has been read of a text that has begun. -/
def Pending.source : Pending → List Char
  | .none => []
  | .quoted _ s => s
  | .escaped _ s => s

/-- What has been read up to the innermost bracket that is open. -/
def outerSource : List (List Piece × Char) → List Char
  | [] => []
  | (before, opening) :: outer => outerSource outer ++ Fetch.source before ++ [opening]

namespace Reader

/-- All that has been read. -/
def source (r : Reader) : List Char :=
  outerSource r.outer ++ Fetch.source r.pieces ++ r.pending.source

theorem source_put {r r' : Reader} {c : Char} (hpending : r.pending = .none)
    (h : r.put c = some r') : r'.source = r.source ++ [c] := by
  obtain ⟨outer, pieces, pending⟩ := r
  subst hpending
  unfold put at h
  split_ifs at h with hquote hslash hopen hclose
  · cases h
    simp [source, Pending.source]
  · cases h
    simp [source, Pending.source, outerSource, Fetch.source]
  · cases outer with
    | nil => cases h
    | cons frame outer =>
      obtain ⟨before, opening⟩ := frame
      dsimp only at h
      split_ifs at h with hmatch
      cases h
      simp [source, Pending.source, outerSource, source_append, source_singleton, Piece.source,
        beq_iff_eq.1 hmatch]
  · cases h
    simp [source, Pending.source, source_append, source_singleton, Piece.source]

/-- **One step** adds its character to what has been read. -/
theorem source_step {r r' : Reader} {c : Char} (h : r.step c = some r') :
    r'.source = r.source ++ [c] := by
  obtain ⟨outer, pieces, pending⟩ := r
  cases pending with
  | none => exact source_put rfl h
  | quoted mark s =>
    simp only [step] at h
    split_ifs at h <;>
      (cases h; simp [source, Pending.source, source_append, source_singleton, Piece.source])
  | escaped mark s =>
    cases h
    simp [source, Pending.source]

/-- **A run** adds the text to what has been read. -/
theorem source_read {r r' : Reader} {s : List Char} (h : r.read s = some r') :
    r'.source = r.source ++ s := by
  induction s generalizing r with
  | nil =>
    cases h
    exact (List.append_nil _).symm
  | cons c s ih =>
    rw [read_cons] at h
    obtain ⟨next, hstep, hread⟩ := Option.bind_eq_some_iff.1 h
    rw [ih hread, source_step hstep, List.append_assoc]
    rfl

end Reader

/-! ## Texts that are read piece by piece -/

/-- A text gives the same pieces wherever it stands, other than between quotation marks. -/
def Reads (s : List Char) (ps : List Piece) : Prop :=
  ∀ outer before, Reader.read ⟨outer, before, .none⟩ s = some ⟨outer, before ++ ps, .none⟩

theorem Reads.pieces?_eq {s : String} {ps : List Piece} (h : Reads s.toList ps) :
    pieces? s = some ps := by
  unfold pieces? Reader.start
  rw [h]
  rfl

/-- **Pieces keep the text** that they were read from. -/
theorem source_of_reads {s : List Char} {ps : List Piece} (h : Reads s ps) : source ps = s := by
  have hsource := Reader.source_read (h [] [])
  simpa [Reader.source, outerSource, Pending.source, source] using hsource

theorem reads_nil : Reads [] [] := by
  intro outer before
  rw [List.append_nil]
  rfl

theorem Reads.append {s t : List Char} {ps qs : List Piece} (hs : Reads s ps) (ht : Reads t qs) :
    Reads (s ++ t) (ps ++ qs) := by
  intro outer before
  rw [Reader.read_append, hs, Option.bind_some, ht, List.append_assoc]

/-- The characters that do not stand for themselves outside the texts. -/
def marks : List Char := ['"', '\'', '/', '\x60', '(', '[', '\x7b', ')', ']', '\x7d']

def isPlain (c : Char) : Bool := !marks.contains c

theorem isPlain_of_isDigit {c : Char} (h : c.isDigit = true) : isPlain c = true := by
  have hmarks : marks.all (!·.isDigit) = true := by decide
  have hmem : c ∉ marks := by
    intro hc
    have hdigit := List.all_eq_true.1 hmarks c hc
    rw [h] at hdigit
    cases hdigit
  simp [isPlain, hmem]

theorem reads_char {c : Char} (h : isPlain c = true) : Reads [c] [.char c] := by
  intro outer before
  have hne : ∀ d ∈ marks, c ≠ d := by
    rintro d hd rfl
    simp [isPlain, hd] at h
  simp only [marks, List.forall_mem_cons, List.not_mem_nil, false_imp_iff, implies_true,
    and_true] at hne
  simp [Reader.read, Reader.step, Reader.put, closing?, hne]

theorem reads_plain {s : List Char} (h : s.all isPlain = true) : Reads s (s.map .char) := by
  induction s with
  | nil => exact reads_nil
  | cons c s ih =>
    rw [List.all_cons, Bool.and_eq_true] at h
    exact (reads_char h.1).append (ih h.2)

theorem Reads.group {s : List Char} {ps : List Piece} (h : Reads s ps) {opening closing : Char}
    (hbracket : closing? opening = some closing) :
    Reads (opening :: s ++ [closing]) [.group opening ps] := by
  intro outer before
  have hends : Reader.step ⟨outer, before, .none⟩ opening =
      some ⟨(before, opening) :: outer, [], .none⟩ ∧
      Reader.step ⟨(before, opening) :: outer, ps, .none⟩ closing =
        some ⟨outer, before ++ [.group opening ps], .none⟩ := by
    obtain ⟨rfl, rfl⟩ | ⟨rfl, rfl⟩ | ⟨rfl, rfl⟩ := closing?_eq_some_iff.1 hbracket
    all_goals exact ⟨rfl, rfl⟩
  rw [List.cons_append, Reader.read_cons, hends.1, Option.bind_some, Reader.read_append, h,
    Option.bind_some, List.nil_append, Reader.read_cons, hends.2]
  rfl

/-! ## Quoted texts -/

/-- A character that stands for itself between quotation marks. -/
def isInner (mark c : Char) : Bool := !(c == mark || c == '\\' || c.toNat < 0x20)

theorem isInner_iff {mark c : Char} :
    isInner mark c = true ↔ c ≠ mark ∧ c ≠ '\\' ∧ ¬ c.toNat < 0x20 := by
  simp [isInner, and_assoc]

theorem read_inner {mark : Char} {ds : List Char} (h : ds.all (isInner mark) = true)
    (outer : List (List Piece × Char)) (before : List Piece) (s : List Char) :
    Reader.read ⟨outer, before, .quoted mark s⟩ ds =
      some ⟨outer, before, .quoted mark (s ++ ds)⟩ := by
  induction ds generalizing s with
  | nil =>
    rw [List.append_nil]
    rfl
  | cons d ds ih =>
    rw [List.all_cons, Bool.and_eq_true, isInner_iff] at h
    obtain ⟨⟨hmark, hback, hcontrol⟩, hds⟩ := h
    have hstep : Reader.step ⟨outer, before, .quoted mark s⟩ d =
        some ⟨outer, before, .quoted mark (s ++ [d])⟩ := by
      simp [Reader.step, hmark, hback, hcontrol]
    rw [Reader.read_cons, hstep, Option.bind_some, ih hds, List.append_assoc]
    rfl

/-- A backslash and the character behind it. -/
theorem read_escape (outer : List (List Piece × Char)) (before : List Piece) (s : List Char)
    (d : Char) (rest : List Char) :
    Reader.read ⟨outer, before, .quoted '"' s⟩ ('\\' :: d :: rest) =
      Reader.read ⟨outer, before, .quoted '"' (s ++ ['\\', d])⟩ rest := by
  have hpair : s ++ ['\\', d] = (s ++ ['\\']) ++ [d] := by rw [List.append_assoc]; rfl
  rw [hpair]
  rfl

/-- **A text without escapes is one piece.** -/
theorem reads_marked {mark : Char} (hmark : mark = '"' ∨ mark = '\'') {s : List Char}
    (h : s.all (isInner mark) = true) : Reads (mark :: s ++ [mark]) [.quoted (mark :: s ++ [mark])] := by
  intro outer before
  have hopen : Reader.step ⟨outer, before, .none⟩ mark =
      some ⟨outer, before, .quoted mark [mark]⟩ := by
    obtain rfl | rfl := hmark <;> rfl
  have hclose : Reader.step ⟨outer, before, .quoted mark (mark :: s)⟩ mark =
      some ⟨outer, before ++ [.quoted (mark :: s ++ [mark])], .none⟩ := by
    simp [Reader.step]
  rw [List.cons_append, Reader.read_cons, hopen, Option.bind_some, Reader.read_append,
    read_inner h, Option.bind_some, List.singleton_append, Reader.read_cons, hclose]
  rfl

theorem isInner_hexDigit {n : Nat} (h : n < 16) : isInner '"' (hexDigit n) = true := by
  have hall : ∀ n < 16, isInner '"' (hexDigit n) = true := by decide
  exact hall n h

/-- The form of a character is passed over, whatever the character is. -/
theorem read_escapeChar (outer : List (List Piece × Char)) (before : List Piece) (s : List Char)
    (c : Char) :
    Reader.read ⟨outer, before, .quoted '"' s⟩ (escapeChar c) =
      some ⟨outer, before, .quoted '"' (s ++ escapeChar c)⟩ := by
  rcases escapeChar_cases c with hshort | ⟨hcontrol, hescape⟩ | ⟨hq, hb, hcontrol, hescape⟩
  · have hpair : ∃ d, escapeChar c = ['\\', d] := by
      simp only [shortEscaped, List.mem_cons, List.not_mem_nil, or_false] at hshort
      rcases hshort with rfl | rfl | rfl | rfl | rfl | rfl | rfl <;> exact ⟨_, rfl⟩
    obtain ⟨d, hd⟩ := hpair
    rw [hd, read_escape]
    rfl
  · have hcode : ['0', '0', hexDigit (c.toNat / 16), hexDigit (c.toNat % 16)].all
        (isInner '"') = true := by
      have hzero : isInner '"' '0' = true := by decide
      have hhigh := isInner_hexDigit (show c.toNat / 16 < 16 by omega)
      have hlow := isInner_hexDigit (show c.toNat % 16 < 16 by omega)
      simp [hzero, hhigh, hlow]
    rw [hescape, read_escape, read_inner hcode, List.append_assoc]
    rfl
  · rw [hescape]
    have hplain : [c].all (isInner '"') = true := by simpa using isInner_iff.2 ⟨hq, hb, hcontrol⟩
    exact read_inner hplain outer before s

/-- **A quoted text is one piece**, whatever it holds. -/
theorem reads_quote (text : List Char) : Reads (quote text) [.quoted (quote text)] := by
  have hinside : ∀ outer before (s : List Char),
      Reader.read ⟨outer, before, .quoted '"' s⟩ (text.flatMap escapeChar) =
        some ⟨outer, before, .quoted '"' (s ++ text.flatMap escapeChar)⟩ := by
    intro outer before
    induction text with
    | nil =>
      intro s
      rw [List.flatMap_nil, List.append_nil]
      rfl
    | cons c text ih =>
      intro s
      rw [List.flatMap_cons, Reader.read_append, read_escapeChar, Option.bind_some, ih,
        List.append_assoc]
  intro outer before
  have hopen : Reader.step ⟨outer, before, .none⟩ '"' = some ⟨outer, before, .quoted '"' ['"']⟩ := rfl
  unfold quote
  rw [List.cons_append, Reader.read_cons, hopen, Option.bind_some, Reader.read_append, hinside]
  rfl

/-! ## Rows of items -/

def Piece.isChar (mark : Char) : Piece → Bool
  | .char c => c == mark
  | _ => false

def Piece.isBlank : Piece → Bool
  | .char c => Text.isBlank c
  | _ => false

/-- Pieces without the blanks at their ends. -/
def trimmed (ps : List Piece) : List Piece := (ps.dropWhile (·.isBlank)).rdropWhile (·.isBlank)

/-- What stands between commas, without the blanks around it. A comma may stand behind the last. -/
def items (ps : List Piece) : List (List Piece) :=
  let parts := (ps.splitOnP (·.isChar ',')).map trimmed
  match parts.getLast? with
  | some [] => parts.dropLast
  | _ => parts

/-- A name and, behind a colon, what it names. -/
def property? (ps : List Piece) : Option (String × List Piece) :=
  match ps.splitOnP (·.isChar ':') with
  | [name, value] => some (String.ofList (source (trimmed name)), trimmed value)
  | _ => none

/-- No comma and no colon stands in a row of pieces, other than in texts and between brackets. -/
def isUnmarked (ps : List Piece) : Bool := ps.all fun p => !(p.isChar ',' || p.isChar ':')

/-- A row of pieces begins and ends with a piece that is no blank. -/
structure IsTight (ps : List Piece) : Prop where
  head : ps.head?.any (!·.isBlank) = true
  last : ps.getLast?.any (!·.isBlank) = true

instance (ps : List Piece) : Decidable (IsTight ps) :=
  decidable_of_iff (ps.head?.any (!·.isBlank) = true ∧ ps.getLast?.any (!·.isBlank) = true)
    ⟨fun h => ⟨h.1, h.2⟩, fun h => ⟨h.head, h.last⟩⟩

theorem isTight_singleton {p : Piece} (h : p.isBlank = false) : IsTight [p] := by
  constructor <;> simp [h]

theorem IsTight.append {ps qs : List Piece} (hps : IsTight ps) (hqs : IsTight qs)
    (mid : List Piece) : IsTight (ps ++ mid ++ qs) := by
  obtain ⟨p, hp, hpblank⟩ := (Option.any_eq_true _ _).1 hps.head
  obtain ⟨q, hq, hqblank⟩ := (Option.any_eq_true _ _).1 hqs.last
  constructor
  · rw [List.append_assoc, List.head?_append, hp]
    exact hpblank
  · rw [List.getLast?_append, hq]
    exact hqblank

theorem source_word (s : String) : source (word s) = s.toList := by
  have hchars : ∀ cs : List Char, source (cs.map .char) = cs := by
    intro cs
    induction cs with
    | nil => rfl
    | cons c cs ih => rw [List.map_cons, source, ih]; rfl
  exact hchars s.toList

theorem isUnmarked_append {ps qs : List Piece} (hps : isUnmarked ps = true)
    (hqs : isUnmarked qs = true) : isUnmarked (ps ++ qs) = true := by
  rw [isUnmarked, List.all_append]
  exact Bool.and_eq_true_iff.2 ⟨hps, hqs⟩

theorem isChar_of_isUnmarked {ps : List Piece} (h : isUnmarked ps = true) :
    ∀ p ∈ ps, p.isChar ',' = false ∧ p.isChar ':' = false := by
  simpa [isUnmarked] using h

/-- Blanks in front are cut off, and nothing else. -/
theorem trimmed_gap (gap : List Piece) {ps : List Piece} (hgap : gap.all (·.isBlank) = true)
    (hps : IsTight ps) : trimmed (gap ++ ps) = ps := by
  obtain ⟨p, hp, hpblank⟩ := (Option.any_eq_true _ _).1 hps.head
  obtain ⟨q, hq, hqblank⟩ := (Option.any_eq_true _ _).1 hps.last
  rw [Bool.not_eq_true'] at hpblank hqblank
  have hstart : (gap ++ ps).dropWhile (·.isBlank) = ps := by
    rw [List.dropWhile_append_of_pos (List.all_eq_true.1 hgap)]
    obtain ⟨rest, rfl⟩ := List.head?_eq_some_iff.1 hp
    exact List.dropWhile_cons_of_neg (by simp [hpblank])
  rw [trimmed, hstart, List.rdropWhile_eq_self_iff]
  intro hne
  have hlast : ps.getLast hne = q :=
    Option.some.inj ((List.getLast?_eq_some_getLast hne).symm.trans hq)
  simp [hlast, hqblank]

theorem trimmed_tight {ps : List Piece} (h : IsTight ps) : trimmed ps = ps := trimmed_gap [] rfl h

/-- An item and the comma behind it. -/
theorem items_comma {part : List Piece} (h : ∀ p ∈ part, p.isChar ',' = false)
    (rest : List Piece) : items (part ++ .char ',' :: rest) = trimmed part :: items rest := by
  have hsplit := List.splitOnP_append_cons_of_forall_mem h (.char ',') rfl rest
  unfold items
  rw [hsplit]
  have hne := List.splitOnP_ne_nil (·.isChar ',') rest
  cases hparts : rest.splitOnP (·.isChar ',') with
  | nil => exact absurd hparts hne
  | cons q qs =>
    simp only [List.map_cons, List.getLast?_cons_cons]
    split <;> rfl

/-! ## Properties -/

/-- A property that can be told apart from what stands around it. -/
structure IsProperty (o : String × List Piece) : Prop where
  tight_name : IsTight (word o.1)
  tight_value : IsTight o.2
  unmarked_name : isUnmarked (word o.1) = true
  unmarked_value : isUnmarked o.2 = true

/-- A name, a colon and what the name stands for. -/
def pair (o : String × List Piece) : List Piece := word o.1 ++ [.char ':', .char ' '] ++ o.2

/-- Properties, each on a line of its own and with a comma behind it. -/
def lines (os : List (String × List Piece)) : List Piece :=
  os.flatMap (fun o => word "\n  " ++ pair o ++ [.char ',']) ++ word "\n"

namespace IsProperty

variable {o : String × List Piece}

theorem tight_pair (h : IsProperty o) : IsTight (pair o) := h.tight_name.append h.tight_value _

theorem property?_pair (h : IsProperty o) : property? (pair o) = some o := by
  have hname := fun p hp => (isChar_of_isUnmarked h.unmarked_name p hp).2
  have hvalue : ∀ p ∈ Piece.char ' ' :: o.2, p.isChar ':' = false :=
    List.forall_mem_cons.2 ⟨rfl, fun p hp => (isChar_of_isUnmarked h.unmarked_value p hp).2⟩
  have hpair : pair o = word o.1 ++ .char ':' :: .char ' ' :: o.2 := by simp [pair]
  have htrimmed : trimmed (.char ' ' :: o.2) = o.2 :=
    trimmed_gap [.char ' '] rfl h.tight_value
  unfold property?
  rw [hpair, List.splitOnP_append_cons_of_forall_mem hname (.char ':') rfl,
    List.splitOnP_eq_singleton hvalue]
  dsimp only
  rw [trimmed_tight h.tight_name, htrimmed, source_word, String.ofList_toList]

end IsProperty

theorem items_lines {os : List (String × List Piece)} (h : ∀ o ∈ os, IsProperty o) :
    items (lines os) = os.map pair := by
  induction os with
  | nil => rfl
  | cons o os ih =>
    obtain ⟨ho, hos⟩ := List.forall_mem_cons.1 h
    have hline : lines (o :: os) = (word "\n  " ++ pair o) ++ .char ',' :: lines os := by
      simp [lines]
    have hcomma : ∀ p ∈ word "\n  " ++ pair o, p.isChar ',' = false := by
      have hname := fun p hp => (isChar_of_isUnmarked ho.unmarked_name p hp).1
      have hvalue := fun p hp => (isChar_of_isUnmarked ho.unmarked_value p hp).1
      simp only [pair, List.forall_mem_append]
      exact ⟨by decide, ⟨hname, by decide⟩, hvalue⟩
    rw [hline, items_comma hcomma, trimmed_gap _ rfl ho.tight_pair, ih hos, List.map_cons]

/-- **Properties on lines of their own are told apart.** -/
theorem properties_lines {os : List (String × List Piece)} (h : ∀ o ∈ os, IsProperty o) :
    (items (lines os)).mapM property? = some os := by
  rw [items_lines h]
  induction os with
  | nil => rfl
  | cons o os ih =>
    obtain ⟨ho, hos⟩ := List.forall_mem_cons.1 h
    rw [List.map_cons, List.mapM_cons, ho.property?_pair, ih hos]
    rfl

/-! ## Calls -/

/-- A call of `fetch`: its first argument, and the properties of the options behind it. -/
structure Call where
  first : List Piece
  options : List (String × List Piece)

/-- The call that stands between two brackets. -/
def Call.ofArguments? (ps : List Piece) : Option Call :=
  match items ps with
  | [first, [.group '\x7b' options]] => ((items options).mapM property?).map (⟨first, ·⟩)
  | _ => none

/-- The pieces behind a word. -/
def behind? : List Char → List Piece → Option (List Piece)
  | [], ps => some ps
  | c :: cs, .char d :: ps => if c = d then behind? cs ps else none
  | _, _ => none

theorem behind?_word (s : String) (ps : List Piece) : behind? s.toList (word s ++ ps) = some ps := by
  have hchars : ∀ cs : List Char, behind? cs (cs.map .char ++ ps) = some ps := by
    intro cs
    induction cs with
    | nil => rfl
    | cons c cs ih => rw [List.map_cons, List.cons_append, behind?, if_pos rfl, ih]
  exact hchars s.toList

/-- A first argument without a comma outside its texts, and options on lines of their own. -/
theorem ofArguments?_lines {first : List Piece} (hfirst : IsTight first)
    (hcomma : ∀ p ∈ first, p.isChar ',' = false) {os : List (String × List Piece)}
    (h : ∀ o ∈ os, IsProperty o) :
    Call.ofArguments? (first ++ .char ',' :: .char ' ' :: [.group '\x7b' (lines os)]) =
      some ⟨first, os⟩ := by
  have hoptions : items [.char ' ', .group '\x7b' (lines os)] = [[.group '\x7b' (lines os)]] := rfl
  unfold Call.ofArguments?
  rw [items_comma hcomma, hoptions, trimmed_tight hfirst]
  change ((items (lines os)).mapM property?).map (Call.mk first) = _
  rw [properties_lines h]
  rfl

/-- The call for which a script waits in its first statement. -/
def fetchCall? (script : String) : Option Call :=
  (pieces? script).bind fun ps =>
    match behind? "const response = await fetch".toList ps with
    | some (.group '(' arguments :: .char ';' :: _) => Call.ofArguments? arguments
    | _ => none

end ApiConsole.Fetch
