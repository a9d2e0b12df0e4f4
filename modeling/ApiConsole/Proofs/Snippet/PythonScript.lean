import ApiConsole.Json.Value
import ApiConsole.Request
import ApiConsole.Url.Encoding
import Mathlib.Data.List.Basic

/-!
# Scripts

A reader of Python scripts that do no more than call the library `requests`: imports, assignments to
names, literals (`None`, `True`, `False`, decimal integers, texts in quotation marks, lists and
dictionaries), calls with positional and keyword arguments, and the attributes of what they give.
A statement ends at a line break outside brackets; inside brackets line breaks and spaces are free.

The reader goes through a script character by character. It keeps the stack of the brackets that are
open, and evaluates an expression when its last part is read. It fails on every other construct of
the language, on indented lines and on names without a value, so a script that it accepts makes
exactly the calls that it gives, in this order (`calls`).
-/
namespace ApiConsole.Python

open Json Text

/-! ## What a script works with -/

/-- A value of a script. Data are given as the JSON values that they are written as. -/
inductive Thing where
  | data (v : Value)
  | library
  | function (method : Method)
  | print
  | response
  /-- A part of a response, of which nothing is known. -/
  | field

/-- A call of the library: its function, the URL, the keyword arguments. -/
structure Call where
  method : Method
  url : String
  keywords : List (String × Value)

/-- The names that cannot be used as names. -/
def reserved : List String :=
  ["and", "as", "assert", "async", "await", "break", "class", "continue", "def", "del", "elif",
    "else", "except", "finally", "for", "from", "global", "if", "import", "in", "is", "lambda",
    "nonlocal", "not", "or", "pass", "raise", "return", "try", "while", "with", "yield"]

/-- The names of values that cannot be assigned to. -/
def constants : List (String × Value) :=
  [("None", .null), ("True", .bool true), ("False", .bool false)]

/-- What a name stands for if nothing was assigned to it. -/
def builtins : List (String × Thing) := [("print", .print)]

/-- The functions of the library that send a request. -/
def functions : List (String × Method) :=
  [("get", .get), ("post", .post), ("put", .put), ("delete", .delete)]

namespace Thing

def data? : Thing → Option Value
  | data v => some v
  | _ => none

def attribute? : Thing → String → Option Thing
  | library, name => (functions.lookup name).map function
  | response, name => if ["status_code", "text"].contains name then some field else none
  | _, _ => none

/-- What a call gives, and the calls of the library that it makes. -/
def call : Thing → List Thing → List (String × Thing) → Option (Thing × List Call)
  | function method, [data (.string url)], keywords =>
    (keywords.mapM fun (k : String × Thing) => k.2.data?.map (k.1, ·)).map fun values =>
      (response, [⟨method, url, values⟩])
  | print, _, [] => some (data .null, [])
  | _, _, _ => none

end Thing

/-! ## Brackets -/

/-- What has been read behind a bracket that is open: the items of a list, the members of a dictionary
and the key in front of the next one, or a function with its arguments and the keyword in front of the
next one. -/
inductive Frame where
  | list (items : List Value)
  | dict (members : List (String × Value)) (key : Option String)
  | call (function : Thing) (arguments : List Thing) (keywords : List (String × Thing))
    (keyword : Option String)

/-- Puts a member into a dictionary; the value of a key that is there gives way. -/
def setMember (key : String) (v : Value) : List (String × Value) → List (String × Value)
  | [] => [(key, v)]
  | (k, w) :: rest => if k = key then (key, v) :: rest else (k, w) :: setMember key v rest

namespace Frame

/-- Adds an item, a member or an argument. No positional argument follows a keyword. -/
def add : Frame → Thing → Option Frame
  | list items, .data v => some (list (items ++ [v]))
  | dict members (some key), .data v => some (dict (setMember key v members) none)
  | call f arguments [] none, t => some (call f (arguments ++ [t]) [] none)
  | call f arguments keywords (some keyword), t =>
    if keywords.any (·.1 == keyword) then none
    else some (call f arguments (keywords ++ [(keyword, t)]) none)
  | _, _ => none

/-- What stands in the brackets, and the calls of the library that it makes. -/
def close : Frame → Char → Option (Thing × List Call)
  | list items, ']' => some (.data (.array items), [])
  | dict members none, '\x7d' => some (.data (.object members), [])
  | call f arguments keywords none, ')' => f.call arguments keywords
  | _, _ => none

end Frame

/-! ## Statements -/

/-- The expression that is being read, up to the last bracket or comma. -/
inductive Operand where
  | empty
  | minus
  | word (name : String)
  | thing (t : Thing)
  | dot (t : Thing)
  | importing
  | imported (name : String)

/-- How far a script has come. -/
structure Script where
  globals : List (String × Thing)
  calls : List Call
  target : Option String
  frames : List Frame
  operand : Operand

namespace Script

/-- Nothing has been read. -/
def start : Script := ⟨[], [], none, [], .empty⟩

/-- Whether a statement begins here. -/
def atStart (s : Script) : Bool :=
  match s.frames, s.operand, s.target with
  | [], .empty, none => true
  | _, _, _ => false

/-- The script with a value read. -/
def hold (s : Script) (t : Thing) : Script := { s with operand := .thing t }

/-- The script with a bracket opened. -/
def openFrame (s : Script) (f : Frame) : Script :=
  { s with frames := f :: s.frames, operand := .empty }

/-- The value that has been read. -/
def thing? (s : Script) : Option Thing :=
  match s.operand with
  | .word name => (s.globals.lookup name).or (builtins.lookup name)
  | .thing t => some t
  | _ => none

/-- Takes in a name. -/
def putName (s : Script) (name : String) : Option Script :=
  match s.operand with
  | .empty =>
    match constants.lookup name with
    | some v => some (s.hold (.data v))
    | none =>
      if name == "import" && s.atStart then some { s with operand := .importing }
      else if reserved.contains name then none
      else some { s with operand := .word name }
  | .dot t => (t.attribute? name).map s.hold
  | .importing => some { s with operand := .imported name }
  | _ => none

/-- Takes in an integer. -/
def putNat (s : Script) (n : Nat) : Option Script :=
  match s.operand with
  | .empty => some (s.hold (.data (.number (.int n))))
  | .minus => some (s.hold (.data (.number (.int (-n)))))
  | _ => none

/-- Takes in a text. -/
def putText (s : Script) (text : List Char) : Option Script :=
  match s.operand with
  | .empty => some (s.hold (.data (.string (String.ofList text))))
  | _ => none

/-- Takes in an equals sign behind a name: a keyword argument or an assignment. -/
def putEquals (s : Script) (name : String) : Option Script :=
  match s.frames, s.target with
  | .call f arguments keywords none :: outer, _ =>
    some { s with frames := .call f arguments keywords (some name) :: outer, operand := .empty }
  | [], none => some { s with target := some name, operand := .empty }
  | _, _ => none

/-- Takes in a colon: what was read is a key. -/
def putColon (s : Script) : Option Script :=
  match s.frames, s.thing? with
  | .dict members none :: outer, some (.data (.string key)) =>
    some { s with frames := .dict members (some key) :: outer, operand := .empty }
  | _, _ => none

/-- Takes in a comma: what was read belongs to the last bracket. -/
def putComma (s : Script) : Option Script :=
  match s.frames, s.thing? with
  | f :: outer, some t => (f.add t).map fun f => { s with frames := f :: outer, operand := .empty }
  | _, _ => none

/-- Takes in a closing bracket; a comma may stand in front of it. -/
def putClosing (s : Script) (c : Char) : Option Script :=
  let inner := match s.operand with
    | .empty => some s
    | _ => s.putComma
  inner.bind fun s =>
    match s.frames with
    | f :: outer => (f.close c).map fun (t, calls) =>
        { s with frames := outer, operand := .thing t, calls := s.calls ++ calls }
    | [] => none

/-- Takes in a mark. -/
def putMark (s : Script) (c : Char) : Option Script :=
  match c, s.operand with
  | '-', .empty => some { s with operand := .minus }
  | '[', .empty => some (s.openFrame (.list []))
  | '\x7b', .empty => some (s.openFrame (.dict [] none))
  | '(', _ => s.thing?.map fun f => s.openFrame (.call f [] [] none)
  | '.', _ => s.thing?.map fun t => { s with operand := .dot t }
  | '=', .word name => s.putEquals name
  | ':', _ => s.putColon
  | ',', _ => s.putComma
  | ']', _ => s.putClosing c
  | '\x7d', _ => s.putClosing c
  | ')', _ => s.putClosing c
  | _, _ => none

/-- The script with a name given a value. -/
def bind (s : Script) (name : String) (t : Thing) : Script :=
  { s with globals := (name, t) :: s.globals, target := none, operand := .empty }

/-- Takes in the end of a statement, or an empty line. -/
def endLine (s : Script) : Option Script :=
  match s.frames, s.operand with
  | [], .empty => if s.target.isNone then some s else none
  | [], .imported name => if name = "requests" then some (s.bind name .library) else none
  | [], _ => s.thing?.map fun t =>
    match s.target with
    | none => { s with operand := .empty }
    | some name => s.bind name t
  | _, _ => none

end Script

/-! ## Characters -/

/-- The part of a script that has begun and not ended: nothing, a name, a number, a text, a text behind
a backslash, or a text behind some digits of a code, of which some are left to read. -/
inductive Pending where
  | blank
  | name (s : List Char)
  | digits (s : List Char)
  | text (s : List Char)
  | escape (s : List Char)
  | code (s : List Char) (value left : Nat)

structure Reader where
  script : Script
  pending : Pending

def isNameStart (c : Char) : Bool := c.isAlpha || c == '_'

def isNameChar (c : Char) : Bool := c.isAlphanum || c == '_'

/-- The character that an escape of two characters stands for. -/
def escapes : List (Char × Char) :=
  [('"', '"'), ('\\', '\\'), ('b', '\x08'), ('f', '\x0c'), ('n', '\n'), ('r', '\r'), ('t', '\t')]

namespace Reader

/-- Takes in a character with which something begins. -/
def begin? (s : Script) (c : Char) : Option Reader :=
  if c == '"' then some ⟨s, .text []⟩
  else if isNameStart c then some ⟨s, .name [c]⟩
  else if c.isDigit then some ⟨s, .digits [c]⟩
  else if c == ' ' then if s.atStart then none else some ⟨s, .blank⟩
  else if c == '\n' then
    if s.frames.isEmpty then s.endLine.map (⟨·, .blank⟩) else some ⟨s, .blank⟩
  else (s.putMark c).map (⟨·, .blank⟩)

/-- The script behind a name or number that ends here. Numbers have no leading zeros. -/
def flush? (r : Reader) : Option Script :=
  match r.pending with
  | .blank => some r.script
  | .name s => r.script.putName (String.ofList s)
  | .digits s =>
    if s.head? == some '0' && 1 < s.length then none
    else r.script.putNat (Nat.ofDigitChars 10 s 0)
  | .text _ | .escape _ | .code _ _ _ => none

/-- Takes in one character. -/
def step (r : Reader) (c : Char) : Option Reader :=
  match r.pending with
  | .blank => begin? r.script c
  | .name s =>
    if isNameChar c then some { r with pending := .name (s ++ [c]) }
    else if c == '"' then none
    else r.flush?.bind (begin? · c)
  | .digits s =>
    if c.isDigit then some { r with pending := .digits (s ++ [c]) }
    else if isNameChar c || c == '.' || c == '"' then none
    else r.flush?.bind (begin? · c)
  | .text s =>
    if c == '"' then (r.script.putText s).map (⟨·, .blank⟩)
    else if c == '\\' then some { r with pending := .escape s }
    else if c.toNat < 0x20 then none
    else some { r with pending := .text (s ++ [c]) }
  | .escape s =>
    if c == 'u' then some { r with pending := .code s 0 4 }
    else (escapes.lookup c).map fun d => { r with pending := .text (s ++ [d]) }
  | .code s value left =>
    (Url.hexValue? c).bind fun digit =>
      let value := value * 16 + digit
      if 1 < left then some { r with pending := .code s value (left - 1) }
      else if value.isValidChar then
        some { r with pending := .text (s ++ [Char.ofNat value]) }
      else none

def read (r : Reader) (s : List Char) : Option Reader := s.foldlM step r

end Reader

/-- The calls that a script makes, in order. -/
def calls (script : String) : Option (List Call) :=
  ((Reader.read ⟨.start, .blank⟩ script.toList).bind (·.flush?)).bind fun s =>
    s.endLine.map (·.calls)

example : calls "import requests\nx = requests\nx.put(\"u\", json=-1,)\n" =
    some [⟨.put, "u", [("json", .number (.int (-1)))]⟩] := rfl

example : calls "requests.get(\"u\")" = none ∧ calls "x = [1,, 2]" = none ∧
    calls "x = \"a\" \"b\"" = none := ⟨rfl, rfl, rfl⟩

/-! ## Reading in parts -/

namespace Reader

theorem read_append (r : Reader) (s t : List Char) :
    r.read (s ++ t) = (r.read s).bind (·.read t) := List.foldlM_append

theorem read_cons (r : Reader) (c : Char) (s : List Char) :
    r.read (c :: s) = (r.step c).bind (·.read s) := List.foldlM_cons

/-- A character that ends a name or a number. -/
def IsBreak (c : Char) : Prop := (isNameChar c || c == '.' || c == '"') = false

theorem step_of_flush {r : Reader} {s : Script} {c : Char} (h : r.flush? = some s)
    (hc : IsBreak c) : r.step c = begin? s c := by
  obtain ⟨script, pending⟩ := r
  unfold IsBreak at hc
  simp only [Bool.or_eq_false_iff] at hc
  obtain ⟨⟨hname, hpoint⟩, hquote⟩ := hc
  cases pending with
  | blank =>
    cases h
    rfl
  | name s =>
    unfold step
    simp only [hname, hquote, h]
    rfl
  | digits s =>
    have hdigit : c.isDigit = false := by
      simp only [isNameChar, Char.isAlphanum, Bool.or_eq_false_iff] at hname
      exact hname.1.2
    unfold step
    simp only [hname, hquote, hpoint, hdigit, h]
    rfl
  | text | escape | code => cases h

/-- Behind a name or number that ends, the rest is read as it stands. -/
theorem read_behind {r : Reader} {s : Script} {c : Char} (h : r.flush? = some s)
    (hc : IsBreak c) (rest : List Char) :
    r.read (c :: rest) = (begin? s c).bind (·.read rest) := by
  rw [read_cons, step_of_flush h hc]

/-- Spaces are skipped where no statement begins. -/
theorem read_spaces {s : Script} (h : s.atStart = false) (n : Nat) (rest : List Char) :
    read ⟨s, .blank⟩ (List.replicate n ' ' ++ rest) = read ⟨s, .blank⟩ rest := by
  induction n with
  | zero => rfl
  | succ n ih =>
    have hspace : step ⟨s, .blank⟩ ' ' = some ⟨s, .blank⟩ := by
      change (if s.atStart then none else some (⟨s, .blank⟩ : Reader)) = _
      rw [h]
      rfl
    rw [List.replicate_succ, List.cons_append, read_cons, hspace]
    exact ih

/-! ## Texts -/

theorem hexValue?_hexDigit {n : Nat} (h : n < 16) : Url.hexValue? (hexDigit n) = some n := by
  have hall : ∀ n < 16, Url.hexValue? (hexDigit n) = some n := by decide
  exact hall n h

theorem step_code (s : Script) (before : List Char) (value : Nat) {left : Nat} (hleft : 1 < left)
    {c : Char} {d : Nat} (h : Url.hexValue? c = some d) :
    step ⟨s, .code before value left⟩ c = some ⟨s, .code before (value * 16 + d) (left - 1)⟩ := by
  simp only [step, h, Option.bind_some, if_pos hleft]

theorem step_code_last (s : Script) (before : List Char) (value : Nat) {c e : Char} {d : Nat}
    (h : Url.hexValue? c = some d) (he : value * 16 + d = e.toNat) :
    step ⟨s, .code before value 1⟩ c = some ⟨s, .text (before ++ [e])⟩ := by
  have hvalid : e.toNat.isValidChar := e.valid
  simp only [step, h, Option.bind_some, he, if_neg (Nat.lt_irrefl 1), if_pos hvalid,
    Char.ofNat_toNat]

/-- **The form of a character is read as the character.** -/
theorem read_escapeChar (s : Script) (before : List Char) (c : Char) :
    read ⟨s, .text before⟩ (escapeChar c) = some ⟨s, .text (before ++ [c])⟩ := by
  rcases escapeChar_cases c with hshort | ⟨hcontrol, hescape⟩ | ⟨hq, hb, hcontrol, hescape⟩
  · simp only [shortEscaped, List.mem_cons, List.not_mem_nil, or_false] at hshort
    rcases hshort with rfl | rfl | rfl | rfl | rfl | rfl | rfl <;> rfl
  · have hzero : Url.hexValue? '0' = some 0 := by decide
    have hhigh := hexValue?_hexDigit (show c.toNat / 16 < 16 by omega)
    have hlow := hexValue?_hexDigit (show c.toNat % 16 < 16 by omega)
    have hcode : c.toNat / 16 * 16 + c.toNat % 16 = c.toNat := by omega
    have hbegin : ∀ rest, read ⟨s, .text before⟩ ('\\' :: 'u' :: rest) =
        read ⟨s, .code before 0 4⟩ rest := fun _ => rfl
    rw [hescape, hbegin, read_cons, step_code s before 0 (by decide) hzero, Option.bind_some,
      read_cons, step_code s before _ (by decide) hzero, Option.bind_some,
      read_cons, step_code s before _ (by decide) hhigh, Option.bind_some,
      read_cons, step_code_last s before _ (e := c) hlow (by omega)]
    rfl
  · rw [hescape]
    simp [read, step, hq, hb, hcontrol]

theorem read_quote (s : Script) (h : s.operand = .empty) (text : List Char) :
    read ⟨s, .blank⟩ (quote text) = some ⟨s.hold (.data (.string (String.ofList text))), .blank⟩ := by
  have hinside : ∀ before, read ⟨s, .text before⟩ (text.flatMap escapeChar) =
      some ⟨s, .text (before ++ text)⟩ := by
    induction text with
    | nil =>
      intro before
      rw [List.append_nil]
      rfl
    | cons c text ih =>
      intro before
      rw [List.flatMap_cons, read_append, read_escapeChar, Option.bind_some, ih]
      simp
  have hopen : step ⟨s, .blank⟩ '"' = some ⟨s, .text []⟩ := rfl
  have hput : s.putText text = some (s.hold (.data (.string (String.ofList text)))) := by
    unfold Script.putText
    rw [h]
  have hclose : step ⟨s, .text text⟩ '"' = (s.putText text).map (⟨·, .blank⟩) := rfl
  unfold quote
  rw [List.cons_append, read_cons, hopen, Option.bind_some, read_append, hinside,
    Option.bind_some, List.nil_append, read_cons, hclose, hput]
  rfl

end Reader

end ApiConsole.Python
