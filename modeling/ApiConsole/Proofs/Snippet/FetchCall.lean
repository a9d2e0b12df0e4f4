import ApiConsole.Proofs.Json.RoundTrip
import ApiConsole.Proofs.Snippet.FetchScript
import ApiConsole.Proofs.Snippet.PythonLiteral
import ApiConsole.Snippet

/-!
# Calls of fetch are read back

A body in indented form is put between the brackets of a call with its lines moved to the right. No
line ends inside its texts, so what comes of it is the indented form at the next level
(`deepen_indented`), of which the reader of JSON makes the same value.

Main theorem `fetch_embeds`: the script of a request calls `fetch` with the URL and the body of the
request.
-/
namespace ApiConsole.Fetch

open Json Text

/-! ## The characters of the indented form -/

theorem hexDigit_ne_newline {n : Nat} (h : n < 16) : hexDigit n ≠ '\n' := by
  intro heq
  obtain ⟨-, -, hcontrol⟩ := isInner_iff.1 (isInner_hexDigit h)
  rw [heq] at hcontrol
  exact hcontrol (by decide)

/-- No line ends inside a quoted text. -/
theorem newline_not_mem_quote (s : List Char) : '\n' ∉ quote s := by
  have hescape : ∀ c, '\n' ∉ escapeChar c := by
    intro c
    rcases escapeChar_cases c with hshort | ⟨hcontrol, hescape⟩ | ⟨-, -, hcontrol, hescape⟩
    · have hall : shortEscaped.all (fun c => !(escapeChar c).contains '\n') = true := by decide
      simpa using List.all_eq_true.1 hall c hshort
    · have hhigh := hexDigit_ne_newline (show c.toNat / 16 < 16 by omega)
      have hlow := hexDigit_ne_newline (show c.toNat % 16 < 16 by omega)
      rw [hescape]
      simp [hhigh.symm, hlow.symm]
    · rw [hescape, List.mem_singleton]
      rintro rfl
      exact hcontrol (by decide)
  simp [quote, hescape]

theorem newline_not_mem_number (n : Number) : '\n' ∉ n.text := by
  intro h
  rcases n.mem_text _ h with hdigit | hmark
  · exact absurd hdigit (by decide)
  · exact absurd hmark (by decide)

/-! ## The indented form at the next level -/

/-- A text with each line behind the first moved to the right by one level. -/
def deepen (s : List Char) : List Char := replaceChar '\n' (newLine 1) s

theorem deepen_append (s t : List Char) : deepen (s ++ t) = deepen s ++ deepen t :=
  replaceChar_append _ _ s t

theorem deepen_of_not_mem {s : List Char} (h : '\n' ∉ s) : deepen s = s :=
  replaceChar_of_not_mem h _

theorem deepen_cons {c : Char} (h : c ≠ '\n') (s : List Char) : deepen (c :: s) = c :: deepen s := by
  rw [← List.singleton_append, deepen_append, deepen_of_not_mem (by simpa using h.symm)]
  rfl

theorem deepen_newLine (level : Nat) : deepen (newLine level) = newLine (level + 1) := by
  have hspaces : '\n' ∉ List.replicate (2 * level) ' ' := by
    intro h
    cases List.eq_of_mem_replicate h
  have hmore : List.replicate 2 ' ' ++ List.replicate (2 * level) ' ' =
      List.replicate (2 * (level + 1)) ' ' := by
    rw [List.replicate_append_replicate, Nat.mul_succ, Nat.add_comm]
  change replaceChar '\n' (newLine 1) ('\n' :: List.replicate (2 * level) ' ') = _
  rw [replaceChar_cons_self, replaceChar_of_not_mem hspaces, newLine, newLine, ← hmore]
  rfl

theorem deepen_furtherTexts {α : Type} {f g : α → List Char} {as : List α}
    (h : ∀ a ∈ as, deepen (f a) = g a) (level level' : Nat) :
    deepen (furtherTexts (newLine level) (newLine level') f as) =
      furtherTexts (newLine (level + 1)) (newLine (level' + 1)) g as := by
  unfold furtherTexts
  rw [deepen_append, deepen_newLine]
  congr 1
  induction as with
  | nil => rfl
  | cons a as ih =>
    obtain ⟨ha, has⟩ := List.forall_mem_cons.1 h
    rw [List.flatMap_cons, List.flatMap_cons, deepen_append, deepen_cons (by decide), deepen_append,
      deepen_newLine, ha, ih has]

theorem deepen_memberText {level : Nat} {m : String × Value}
    (h : deepen (m.2.indented level) = m.2.indented (level + 1)) :
    deepen (memberText (·.indented level) m) = memberText (·.indented (level + 1)) m := by
  unfold memberText
  rw [deepen_append, deepen_of_not_mem (newline_not_mem_quote _), deepen_cons (by decide),
    deepen_cons (by decide), h]

/-- **Moved to the right, the indented form is that of the next level.** -/
theorem deepen_indented {depth : Nat} {v : Value} (h : Formed depth v) (level : Nat) :
    deepen (v.indented level) = v.indented (level + 1) := by
  induction h generalizing level with
  | null => rfl
  | bool _ b => cases b <;> rfl
  | @number _ n _ => exact deepen_of_not_mem (newline_not_mem_number n)
  | string _ s => exact deepen_of_not_mem (newline_not_mem_quote s.toList)
  | @array _ items _ ih =>
    cases items with
    | nil => rfl
    | cons v items =>
      obtain ⟨hv, hitems⟩ := List.forall_mem_cons.1 ih
      rw [indented_array_cons, indented_array_cons, deepen_cons (by decide), deepen_append,
        deepen_append, deepen_append, deepen_newLine, hv,
        deepen_furtherTexts fun w hw => hitems w hw (level + 1)]
      rfl
  | @object _ members _ _ ih =>
    cases members with
    | nil => rfl
    | cons m members =>
      obtain ⟨hm, hmembers⟩ := List.forall_mem_cons.1 ih
      rw [indented_object_cons, indented_object_cons, deepen_cons (by decide), deepen_append,
        deepen_append, deepen_append, deepen_newLine, deepen_memberText (hm _),
        deepen_furtherTexts fun w hw => deepen_memberText (hmembers w hw (level + 1))]
      rfl

/-- A body between the brackets of a call is the indented form at the next level. -/
theorem toList_indentContinuation_pretty {v : Value} (h : Formed depthLimit v) :
    (indentContinuation v.pretty).toList = v.indented 1 := by
  simp only [indentContinuation, Value.pretty, String.toList_ofList]
  exact deepen_indented h 0

/-! ## The indented form as a script -/

/-- A text that is read wherever it stands in a script. -/
def IsScript (s : List Char) : Prop := ∃ ps, Reads s ps

namespace IsScript

theorem append {s t : List Char} (hs : IsScript s) (ht : IsScript t) : IsScript (s ++ t) := by
  obtain ⟨ps, hps⟩ := hs
  obtain ⟨qs, hqs⟩ := ht
  exact ⟨_, hps.append hqs⟩

theorem plain {s : List Char} (h : s.all isPlain = true) : IsScript s := ⟨_, reads_plain h⟩

theorem cons {c : Char} (hc : isPlain c = true) {s : List Char} (h : IsScript s) :
    IsScript (c :: s) := IsScript.append ⟨_, reads_char hc⟩ h

theorem group {s : List Char} (h : IsScript s) {opening closing : Char}
    (hbracket : closing? opening = some closing) : IsScript (opening :: (s ++ [closing])) := by
  obtain ⟨ps, hps⟩ := h
  exact ⟨_, hps.group hbracket⟩

theorem flatMap {α : Type} {f : α → List Char} {as : List α} (h : ∀ a ∈ as, IsScript (f a)) :
    IsScript (as.flatMap f) := by
  induction as with
  | nil => exact ⟨[], reads_nil⟩
  | cons a as ih =>
    obtain ⟨ha, has⟩ := List.forall_mem_cons.1 h
    exact ha.append (ih has)

theorem quote (s : List Char) : IsScript (quote s) := ⟨_, reads_quote s⟩

theorem newLine (level : Nat) : IsScript (newLine level) := by
  refine plain (List.all_eq_true.2 (List.forall_mem_cons.2 ⟨by decide, fun c hc => ?_⟩))
  rw [List.eq_of_mem_replicate hc]
  decide

theorem furtherTexts {α : Type} {f : α → List Char} {as : List α} (h : ∀ a ∈ as, IsScript (f a))
    (level level' : Nat) :
    IsScript (furtherTexts (Json.newLine level) (Json.newLine level') f as) :=
  (flatMap fun a ha => cons (by decide) ((newLine level).append (h a ha))).append (newLine level')

theorem number (n : Number) : IsScript n.text := by
  refine plain (List.all_eq_true.2 fun c hc => ?_)
  rcases n.mem_text c hc with hdigit | hmark
  · exact isPlain_of_isDigit hdigit
  · have hall : numberMarks.all isPlain = true := by decide
    exact List.all_eq_true.1 hall c hmark

/-- **The indented form is read wherever it stands.** Brackets and quotation marks inside its texts do
not count, for a text is one piece. -/
theorem indented {depth : Nat} {v : Value} (h : Formed depth v) (level : Nat) :
    IsScript (v.indented level) := by
  induction h generalizing level with
  | null =>
    have hnull : "null".toList.all isPlain = true := by decide
    exact plain hnull
  | bool _ b =>
    have hbool : ∀ b, (boolText b).all isPlain = true := by decide
    exact plain (hbool b)
  | @number _ n _ => exact number n
  | string _ s => exact quote s.toList
  | @array _ items _ ih =>
    cases items with
    | nil => exact group ⟨[], reads_nil⟩ rfl
    | cons v items =>
      obtain ⟨hv, hitems⟩ := List.forall_mem_cons.1 ih
      rw [indented_array_cons]
      exact (((newLine _).append (hv _)).append
        (furtherTexts (fun w hw => hitems w hw _) _ _)).group rfl
  | @object _ members _ _ ih =>
    have hmember : ∀ m ∈ members, ∀ level, IsScript (memberText (·.indented level) m) :=
      fun m hm level => (quote _).append (cons (by decide) (cons (by decide) (ih m hm level)))
    cases members with
    | nil => exact group ⟨[], reads_nil⟩ rfl
    | cons m members =>
      obtain ⟨hm, hmembers⟩ := List.forall_mem_cons.1 hmember
      rw [indented_object_cons]
      exact (((newLine _).append (hm _)).append
        (furtherTexts (fun w hw => hmembers w hw _) _ _)).group rfl

end IsScript

/-! ## The script of a call -/

/-- A name and a text behind it on a line of their own, from the line break in front to the comma. -/
def lineText (o : String × List Char) : List Char :=
  "\n  ".toList ++ (o.1.toList ++ [':', ' '] ++ o.2) ++ [',']

/-- **Lines are read as properties.** -/
theorem reads_lines {texts : List (String × List Char)} {os : List (String × List Piece)}
    (h : List.Forall₂ (fun t o => t.1 = o.1 ∧ t.1.toList.all isPlain = true ∧ Reads t.2 o.2)
      texts os) :
    Reads (texts.flatMap lineText ++ ['\n']) (lines os) := by
  refine Reads.append ?_ (reads_char (by decide))
  induction h with
  | nil => exact reads_nil
  | @cons t o _ _ hto _ ih =>
    obtain ⟨hname, hplain, hreads⟩ := hto
    have hpair : Reads (t.1.toList ++ [':', ' '] ++ t.2) (pair o) := by
      rw [pair, ← hname]
      exact ((reads_plain hplain).append (reads_plain (by decide))).append hreads
    have hstart : Reads "\n  ".toList (word "\n  ") := reads_plain (by decide)
    exact ((hstart.append hpair).append (reads_char (by decide))).append ih

/-- The text of a body as an expression. -/
def bodyText : SnippetBody → String
  | .json v => "JSON.stringify(" ++ indentContinuation v.pretty ++ ")"
  | .raw s => quoteString s

/-- The headers of a call. -/
def headerText : List Char :=
  '\x7b' :: ("\n    ".toList ++ "'Content-Type'".toList ++ ": ".toList ++
    "'application/json'".toList ++ ",\n  ".toList) ++ ['\x7d']

/-- The names and texts of the properties of a call. -/
def propertyTexts (method : Method) (body : Option SnippetBody) : List (String × List Char) :=
  ("method", '\'' :: method.name.toList ++ ['\'']) ::
    match body with
    | none => []
    | some b => [("headers", headerText), ("body", (bodyText b).toList)]

theorem lineText_method (name : String) :
    lineText ("method", '\'' :: name.toList ++ ['\'']) ++ ['\n'] =
      ("\n  method: '" ++ name ++ "',\n").toList := by
  simp only [lineText, String.toList_append, List.append_assoc, List.cons_append, List.nil_append]
  rfl

theorem lineText_headers :
    lineText ("headers", headerText) ++ ['\n'] =
      '\n' :: ("  headers: \x7b\n    'Content-Type': 'application/json',\n  \x7d,\n").toList := by
  decide

theorem lineText_body (text : String) :
    lineText ("body", text.toList) ++ ['\n'] = '\n' :: ("  body: " ++ text ++ ",\n").toList := by
  simp only [lineText, String.toList_append, List.append_assoc, List.cons_append, List.nil_append]
  rfl

theorem toList_fetchProperties (b : SnippetBody) :
    '\n' :: (Snippet.fetchProperties (some b)).toList =
      lineText ("headers", headerText) ++ (lineText ("body", (bodyText b).toList) ++ ['\n']) := by
  have hproperties : Snippet.fetchProperties (some b) =
      "  headers: \x7b\n    'Content-Type': 'application/json',\n  \x7d,\n" ++
        ("  body: " ++ bodyText b ++ ",\n") := by
    cases b with
    | json v =>
      -- The call of `stringify` and the line share two literals of the script; they are cut apart.
      have hsplit : ∀ inside, "  body: JSON.stringify(" ++ inside ++ "),\n" =
          "  body: " ++ ("JSON.stringify(" ++ inside ++ ")") ++ ",\n" := by
        intro inside
        have hopen : "  body: JSON.stringify(" = "  body: " ++ "JSON.stringify(" := by decide
        have hclose : "),\n" = ")" ++ ",\n" := by decide
        rw [hopen, hclose]
        simp only [String.append_assoc]
      exact congrArg (_ ++ ·) (hsplit (indentContinuation v.pretty))
    | raw s => rfl
  rw [hproperties, lineText_body, String.toList_append, ← List.cons_append, ← lineText_headers,
    List.append_assoc]
  rfl

/-- The properties of a call, on their lines. -/
theorem flatMap_lineText (method : Method) (body : Option SnippetBody) :
    (propertyTexts method body).flatMap lineText ++ ['\n'] =
      ("\n  method: '" ++ method.name ++ "',\n").toList ++
        (Snippet.fetchProperties body).toList := by
  rw [← lineText_method, List.append_assoc, List.singleton_append]
  cases body with
  | none =>
    simp only [propertyTexts, List.flatMap_cons, List.flatMap_nil, List.append_nil]
    rfl
  | some b =>
    rw [toList_fetchProperties]
    simp only [propertyTexts, List.flatMap_cons, List.flatMap_nil, List.append_nil,
      List.append_assoc]

/-- What stands behind the call. -/
def endText : List Char := ";\n\nconst data = await response.json();\nconsole.log(data);".toList

theorem toList_fetchCode (method : Method) (url : String) (body : Option SnippetBody) :
    (Snippet.fetchCode method url body).toList =
      "const response = await fetch".toList ++
        ('(' :: (quote url.toList ++ [',', ' '] ++
          ('\x7b' :: ((propertyTexts method body).flatMap lineText ++ ['\n']) ++ ['\x7d'])) ++
            [')']) ++ endText := by
  have hopen : "const response = await fetch(".toList =
      "const response = await fetch".toList ++ ['('] := by decide
  have hoptions : ", \x7b\n  method: '".toList = [',', ' ', '\x7b'] ++ "\n  method: '".toList := by
    decide
  have hclose : "\x7d);\n\nconst data = await response.json();\nconsole.log(data);".toList =
      ['\x7d', ')'] ++ endText := by decide
  have hquote : (quoteString url).toList = quote url.toList := String.toList_ofList
  rw [flatMap_lineText]
  unfold Snippet.fetchCode
  simp only [String.toList_append, hopen, hoptions, hclose, hquote, List.append_assoc,
    List.cons_append, List.nil_append]

/-! ## Its pieces -/

def headerPieces : List Piece :=
  [.group '\x7b' (word "\n    " ++ [.quoted "'Content-Type'".toList] ++ word ": " ++
    [.quoted "'application/json'".toList] ++ word ",\n  ")]

/-- The pieces of a body: a call that turns a value into text, or a text. -/
inductive BodyPieces : SnippetBody → List Piece → Prop where
  | json {v : Value} {inside : List Piece}
      (h : Reads (indentContinuation v.pretty).toList inside) :
      BodyPieces (.json v) (word "JSON.stringify" ++ [.group '(' inside])
  | raw (s : String) : BodyPieces (.raw s) [.quoted (quote s.toList)]

/-- The names and pieces of the properties of a call. -/
def propertyPieces (method : Method) (body : Option (List Piece)) : List (String × List Piece) :=
  ("method", [.quoted ('\'' :: method.name.toList ++ ['\''])]) ::
    match body with
    | none => []
    | some ps => [("headers", headerPieces), ("body", ps)]

theorem reads_word {s : String} (h : s.toList.all isPlain = true) : Reads s.toList (word s) :=
  reads_plain h

theorem reads_methodName (method : Method) :
    Reads ('\'' :: method.name.toList ++ ['\''])
      [.quoted ('\'' :: method.name.toList ++ ['\''])] := by
  refine reads_marked (.inr rfl) ?_
  cases method <;> decide

theorem reads_headerText : Reads headerText headerPieces := by
  have hinner : "Content-Type".toList.all (isInner '\'') = true ∧
      "application/json".toList.all (isInner '\'') = true := by decide
  have hname : Reads "'Content-Type'".toList [.quoted "'Content-Type'".toList] :=
    reads_marked (.inr rfl) hinner.1
  have hvalue : Reads "'application/json'".toList [.quoted "'application/json'".toList] :=
    reads_marked (.inr rfl) hinner.2
  refine Reads.group ?_ rfl
  exact ((((reads_word (by decide)).append hname).append (reads_word (by decide))).append
    hvalue).append (reads_word (by decide))

theorem reads_stringify {inside : String} {ps : List Piece} (h : Reads inside.toList ps) :
    Reads ("JSON.stringify(" ++ inside ++ ")").toList (word "JSON.stringify" ++ [.group '(' ps]) := by
  have hopen : "JSON.stringify(".toList = "JSON.stringify".toList ++ ['('] := by decide
  have hclose : ")".toList = [')'] := by decide
  have htext : ("JSON.stringify(" ++ inside ++ ")").toList =
      "JSON.stringify".toList ++ ('(' :: inside.toList ++ [')']) := by
    simp only [String.toList_append, hopen, hclose, List.append_assoc,
      List.cons_append, List.nil_append]
  rw [htext]
  exact (reads_word (by decide)).append (h.group rfl)

theorem BodyPieces.reads {b : SnippetBody} {ps : List Piece} (h : BodyPieces b ps) :
    Reads (bodyText b).toList ps := by
  cases h with
  | json hinside => exact reads_stringify hinside
  | raw s =>
    have hquote : (quoteString s).toList = quote s.toList := String.toList_ofList
    change Reads (quoteString s).toList _
    rw [hquote]
    exact reads_quote s.toList

theorem BodyPieces.isProperty {b : SnippetBody} {ps : List Piece} (h : BodyPieces b ps) :
    IsProperty ("body", ps) := by
  have hname : IsTight (word "body") ∧ isUnmarked (word "body") = true := by decide
  cases h with
  | @json v inside _ =>
    have hcall : IsTight (word "JSON.stringify") ∧ isUnmarked (word "JSON.stringify") = true := by
      decide
    have hlast : IsTight [.group '(' inside] := isTight_singleton rfl
    have htight := hcall.1.append hlast []
    rw [List.append_nil] at htight
    exact ⟨hname.1, htight, hname.2, isUnmarked_append hcall.2 rfl⟩
  | raw s => exact ⟨hname.1, isTight_singleton rfl, hname.2, rfl⟩

variable {method : Method} {body : Option SnippetBody} {ps : Option (List Piece)}

theorem isProperty_propertyPieces (h : Option.Rel BodyPieces body ps) :
    ∀ o ∈ propertyPieces method ps, IsProperty o := by
  have hnames : ∀ name ∈ ["method", "headers"],
      IsTight (word name) ∧ isUnmarked (word name) = true := by decide
  obtain ⟨hmethod, hheaders⟩ := List.forall_mem_cons.1 hnames
  replace hheaders := List.forall_mem_singleton.1 hheaders
  refine List.forall_mem_cons.2 ⟨⟨hmethod.1, isTight_singleton rfl, hmethod.2, rfl⟩, ?_⟩
  cases h with
  | none => exact List.forall_mem_nil _
  | some h =>
    exact List.forall_mem_cons.2 ⟨⟨hheaders.1, isTight_singleton rfl, hheaders.2, rfl⟩,
      List.forall_mem_singleton.2 h.isProperty⟩

theorem reads_properties (h : Option.Rel BodyPieces body ps) :
    Reads ((propertyTexts method body).flatMap lineText ++ ['\n'])
      (lines (propertyPieces method ps)) := by
  have hnames : "method".toList.all isPlain = true ∧ "headers".toList.all isPlain = true ∧
      "body".toList.all isPlain = true := by decide
  obtain ⟨hmethod, hheaders, hbody⟩ := hnames
  refine reads_lines (.cons ⟨rfl, hmethod, reads_methodName method⟩ ?_)
  cases h with
  | none => exact .nil
  | some h =>
    exact .cons ⟨rfl, hheaders, reads_headerText⟩ (.cons ⟨rfl, hbody, h.reads⟩ .nil)

theorem reads_endText : ∃ rest, Reads endText (.char ';' :: rest) := by
  have hend : endText = [';'] ++ "\n\nconst data = await response.json".toList ++ ('(' :: [] ++ [')']) ++
      ";\nconsole.log".toList ++ ('(' :: "data".toList ++ [')']) ++ [';'] := by decide
  have hempty : Reads ('(' :: [] ++ [')']) [.group '(' []] := reads_nil.group rfl
  have hdata : Reads ('(' :: "data".toList ++ [')']) [.group '(' (word "data")] :=
    (reads_word (by decide)).group rfl
  rw [hend]
  exact ⟨_, (((((reads_char (by decide)).append (reads_word (by decide))).append hempty).append
    (reads_word (by decide))).append hdata).append (reads_char (by decide))⟩

/-- **The call that the script of a request waits for.** -/
theorem fetchCall?_fetchCode (h : Option.Rel BodyPieces body ps) (method : Method) (url : String) :
    fetchCall? (Snippet.fetchCode method url body) =
      some ⟨[.quoted (quote url.toList)], propertyPieces method ps⟩ := by
  obtain ⟨rest, hrest⟩ := reads_endText
  have hproperties : Reads _ (lines (propertyPieces method ps)) := reads_properties h
  have hoptions : Reads _ [.group '\x7b' _] := hproperties.group rfl
  have hcomma : Reads [',', ' '] [.char ',', .char ' '] := reads_plain (by decide)
  have harguments : Reads _ [.group '(' _] :=
    (((reads_quote url.toList).append hcomma).append hoptions).group rfl
  have hfetch : Reads "const response = await fetch".toList (word "const response = await fetch") :=
    reads_word (by decide)
  have hscript := (hfetch.append harguments).append hrest
  rw [← toList_fetchCode] at hscript
  unfold fetchCall?
  rw [hscript.pieces?_eq, Option.bind_some, List.append_assoc, behind?_word]
  exact ofArguments?_lines (isTight_singleton rfl) (List.forall_mem_singleton.2 rfl)
    (isProperty_propertyPieces h)

/-! ## The body of a draft -/

/-- The body that a draft gives can be read back piece by piece. -/
theorem exists_bodyPieces (method : Method) (draft : String) :
    ∃ ps, Option.Rel BodyPieces (SnippetBody.ofDraft method draft) ps := by
  rw [SnippetBody.ofDraft_eq]
  split
  · cases hparse : parse? draft with
    | none => exact ⟨_, .some (.raw draft)⟩
    | some v =>
      have hv := formed_of_parse? hparse
      obtain ⟨inside, hinside⟩ := IsScript.indented hv 1
      rw [← toList_indentContinuation_pretty hv] at hinside
      exact ⟨_, .some (.json hinside)⟩
  · exact ⟨none, .none⟩

theorem parse?_quote (s : String) : parse? (String.ofList (quote s.toList)) = some (.string s) :=
  (readsBack_string depthLimit s).parse?_pretty

/-- What is read between the brackets of a call that turns a value into text. -/
theorem parse?_inside {v : Value} (h : Formed depthLimit v) (hints : Python.NoFractions v)
    {inside : List Piece} (hinside : Reads (indentContinuation v.pretty).toList inside) :
    parse? (String.ofList (source inside)) = some v := by
  rw [source_of_reads hinside, toList_indentContinuation_pretty h, parse?_indented h,
    reread?_eq_self_iff h]
  exact fun x hx => absurd hx (hints x)

/-- What is read in the body of a draft. -/
theorem BodyPieces.read_back {draft : String} {body : List Piece}
    (h : BodyPieces (match parse? draft with
      | some v => .json v
      | none => .raw draft) body)
    (hints : ∀ v, parse? draft = some v → Python.NoFractions v) :
    (∀ v, parse? draft = some v → ∃ inside, body = word "JSON.stringify" ++ [.group '(' inside] ∧
      parse? (String.ofList (source inside)) = some v) ∧
    (parse? draft = none → ∃ literal, body = [.quoted literal] ∧
      parse? (String.ofList literal) = some (.string draft)) := by
  cases hparse : parse? draft with
  | none =>
    rw [hparse] at h
    cases h
    exact ⟨nofun, fun _ => ⟨_, rfl, parse?_quote draft⟩⟩
  | some v =>
    rw [hparse] at h
    cases h with
    | json hinside =>
      refine ⟨?_, nofun⟩
      rintro _ ⟨⟩
      exact ⟨_, rfl, parse?_inside (formed_of_parse? hparse) (hints v hparse) hinside⟩

theorem mem_names_propertyPieces (method : Method) (ps : Option (List Piece)) :
    ∀ name ∈ ["headers", "body"],
      name ∈ (propertyPieces method ps).map Prod.fst ↔ ps.isSome := by
  cases ps <;> simp [propertyPieces]

theorem mem_body_propertyPieces {body : List Piece} :
    ("body", body) ∈ propertyPieces method ps ↔ ps = some body := by
  cases ps <;> simp [propertyPieces, eq_comm]

/-- **The script of a request holds its URL and its body.** The first argument of its call is a text
that is read as the URL. The call has headers and a body exactly if the method carries a body and the
draft is not blank. The body is the value of the draft made text, or the draft itself if it is no
JSON. -/
theorem fetch_embeds (method : Method) (url draft : String)
    (hints : ∀ v, parse? draft = some v → Python.NoFractions v) :
    ∃ call, fetchCall? (Snippet.generate .fetch method url draft).code = some call ∧
      (∃ literal, call.first = [.quoted literal] ∧
        parse? (String.ofList literal) = some (.string url)) ∧
      (∀ name ∈ ["headers", "body"], name ∈ call.options.map Prod.fst ↔
        method ≠ .get ∧ isBlankString draft = false) ∧
      ∀ body, ("body", body) ∈ call.options →
        (∀ v, parse? draft = some v → ∃ inside,
          body = word "JSON.stringify" ++ [.group '(' inside] ∧
            parse? (String.ofList (source inside)) = some v) ∧
        (parse? draft = none → ∃ literal, body = [.quoted literal] ∧
          parse? (String.ofList literal) = some (.string draft)) := by
  obtain ⟨ps, hps⟩ := exists_bodyPieces method draft
  refine ⟨_, fetchCall?_fetchCode hps method url, ⟨_, rfl, parse?_quote url⟩, ?_, ?_⟩
  · intro name hname
    rw [mem_names_propertyPieces method ps name hname]
    rw [SnippetBody.ofDraft_eq] at hps
    split at hps
    · next hsent =>
      cases hps
      exact iff_of_true rfl hsent
    · next hsent =>
      cases hps
      exact iff_of_false nofun hsent
  · intro body hbody
    rw [mem_body_propertyPieces] at hbody
    subst hbody
    rw [SnippetBody.ofDraft_eq] at hps
    split at hps
    · cases hps with
      | some h => exact h.read_back hints
    · cases hps

/-- A draft with a bracket, a comma and a line break in its text. -/
def bracketDraft : String := "[\"),\\n\", 1]"

theorem fetch_embeds_brackets :
    (∀ v, parse? bracketDraft = some v → Python.NoFractions v) ∧
      ∃ call, fetchCall? (Snippet.generate .fetch .put "http://h/?a=),\"" bracketDraft).code =
          some call ∧
        (∃ literal, call.first = [.quoted literal] ∧
          parse? (String.ofList literal) = some (.string "http://h/?a=),\"")) ∧
        ∃ inside, ("body", word "JSON.stringify" ++ [.group '(' inside]) ∈ call.options ∧
          parse? (String.ofList (source inside)) =
            some (.array [.string "),\n", .number (.int 1)]) := by
  have hparse : parse? bracketDraft = some (.array [.string "),\n", .number (.int 1)]) := rfl
  have hints : ∀ v, parse? bracketDraft = some v → Python.NoFractions v := by
    rintro v hv x hx
    rw [hparse] at hv
    cases hv
    cases hx with
    | item hmem hx =>
      simp only [List.mem_cons, List.not_mem_nil, or_false] at hmem
      obtain rfl | rfl := hmem <;> cases hx
  obtain ⟨call, hcall, hfirst, hnames, hbody⟩ :=
    fetch_embeds .put "http://h/?a=),\"" bracketDraft hints
  have hname := (hnames "body" (by simp)).2 ⟨nofun, by decide⟩
  obtain ⟨⟨_, body⟩, hmem, rfl⟩ := List.mem_map.1 hname
  obtain ⟨inside, rfl, hread⟩ := (hbody body hmem).1 _ hparse
  exact ⟨hints, call, hcall, hfirst, inside, hmem, hread⟩

end ApiConsole.Fetch
