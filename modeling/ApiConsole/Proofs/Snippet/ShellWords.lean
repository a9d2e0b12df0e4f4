import ApiConsole.Snippet
import Mathlib.Data.List.Basic

/-!
# Command lines as words

A reader of command lines by the rules of a POSIX shell. Outside quotes, blanks separate words, a
backslash takes the next character as it is, and a backslash at the end of a line disappears together
with the line break; between single quotes every character is literal; adjacent parts make one word.
The reader fails on a quote that is not closed, and on every character that a shell may take for more
than itself outside quotes, double quotes and a bare line break included: a line that it accepts is
one command with exactly these words.

A text in single quotes is read as the text, whatever stands in front of it (`read_shellQuote`). Main
theorem `words_curl_snippet`: the `curl` snippet of a request is read as the words of the request,
for all URLs and bodies, so that no text adds, splits or drops a word.
-/
namespace ApiConsole.Shell

open Text

/-! ## Reading a line -/

/-- Where a reader stands: outside quotes, behind a backslash, or between single quotes. -/
inductive Mode where
  | plain
  | escaped
  | quoted

/-- What was read of a line: the words that have ended, the word that has begun, if any. -/
structure Reader where
  ended : List (List Char)
  word : Option (List Char)
  mode : Mode

namespace Reader

/-- The reader at the start of a line. -/
def start : Reader := ⟨[], none, .plain⟩

/-- Adds a character to the word that has begun, or begins one. -/
def put (r : Reader) (c : Char) (mode : Mode) : Reader :=
  { r with word := some (r.word.getD [] ++ [c]), mode := mode }

end Reader

def isSeparator (c : Char) : Bool := c == ' ' || c == '\t'

/-- The characters that a shell may take for more than themselves outside quotes, apart from the
blanks, the backslash and the single quote. -/
def isSpecial (c : Char) : Bool := "|&;<>()$`\"*?[#~=%\n".toList.contains c

/-- Takes in one character. -/
def step (r : Reader) (c : Char) : Option Reader :=
  match r.mode with
  | .plain =>
    if c == '\'' then some { r with word := some (r.word.getD []), mode := .quoted }
    else if c == '\\' then some { r with mode := .escaped }
    else if isSeparator c then some { r with ended := r.ended ++ r.word.toList, word := none }
    else if isSpecial c then none
    else some (r.put c .plain)
  | .escaped => some (if c == '\n' then { r with mode := .plain } else r.put c .plain)
  | .quoted => some (if c == '\'' then { r with mode := .plain } else r.put c .quoted)

def read (r : Reader) (s : List Char) : Option Reader := s.foldlM step r

/-- The words of a line, unless it ends between quotes or behind a backslash. -/
def words (line : String) : Option (List String) :=
  (read .start line.toList).bind fun r =>
    match r.mode with
    | .plain => some ((r.ended ++ r.word.toList).map String.ofList)
    | .escaped | .quoted => none

theorem read_append (r : Reader) (xs ys : List Char) :
    read r (xs ++ ys) = (read r xs).bind (read · ys) := List.foldlM_append

theorem step_ended (before : List (List Char)) (r : Reader) (c : Char) :
    step { r with ended := before ++ r.ended } c =
      (step r c).map fun r' => { r' with ended := before ++ r'.ended } := by
  obtain ⟨ended, word, mode⟩ := r
  cases mode with
  | plain =>
    simp only [step]
    split_ifs <;> simp [Reader.put]
  | escaped | quoted =>
    simp only [step]
    split_ifs <;> rfl

/-- The words that have ended do not matter to what follows. -/
theorem read_ended (before : List (List Char)) (r : Reader) (s : List Char) :
    read { r with ended := before ++ r.ended } s =
      (read r s).map fun r' => { r' with ended := before ++ r'.ended } := by
  unfold read
  induction s generalizing r with
  | nil => rfl
  | cons c s ih =>
    rw [List.foldlM_cons, List.foldlM_cons, step_ended]
    cases step r c with
    | none => rfl
    | some r' => exact ih r'

/-- Behind a space a line is read as from its start. -/
theorem read_space (ended : List (List Char)) (word s : List Char) :
    read ⟨ended, some word, .plain⟩ (' ' :: s) =
      (read .start s).map fun r => { r with ended := ended ++ [word] ++ r.ended } := by
  have h := read_ended (ended ++ [word]) .start s
  rw [show ended ++ [word] ++ Reader.start.ended = ended ++ [word] from List.append_nil _] at h
  exact h

/-! ## Quoted texts -/

/-- Between quotes, a text whose single quotes are replaced is read as it was. -/
theorem read_replaceChar (ended : List (List Char)) (word s : List Char) :
    read ⟨ended, some word, .quoted⟩ (replaceChar '\'' "'\\''".toList s) =
      some ⟨ended, some (word ++ s), .quoted⟩ := by
  induction s generalizing word with
  | nil => rw [List.append_nil]; rfl
  | cons c s ih =>
    unfold replaceChar at ih ⊢
    rw [List.flatMap_cons, read_append]
    -- A single quote is written as four characters, which leave the quotes and come back to them.
    have hc : read ⟨ended, some word, .quoted⟩ (if c == '\'' then "'\\''".toList else [c]) =
        some ⟨ended, some (word ++ [c]), .quoted⟩ := by
      by_cases h : c = '\''
      · subst h; rfl
      · simp [read, step, Reader.put, h]
    rw [hc, Option.bind_some, ih, List.append_assoc]
    rfl

/-- **A quoted text is read as the text**, joined to what stands directly in front of it. -/
theorem read_shellQuote (ended : List (List Char)) (word : Option (List Char)) (s : String) :
    read ⟨ended, word, .plain⟩ (shellQuote s).toList =
      some ⟨ended, some (word.getD [] ++ s.toList), .plain⟩ := by
  unfold shellQuote
  rw [String.toList_ofList, read_append]
  show (read ⟨ended, some (word.getD []), .quoted⟩ _).bind (read · ['\'']) = _
  rw [read_replaceChar]
  rfl

/-- A quoted text is one word, also if it is empty. -/
theorem words_shellQuote (s : String) : words (shellQuote s) = some [s] := by
  unfold words
  rw [Reader.start, read_shellQuote]
  simp

example : words "a\\ b 'c d'\\\ne ''" = some ["a b", "c de", ""] := by decide

example : words "a 'b" = none ∧ words "a\\" = none ∧ words "a; b" = none := by decide

/-! ## The command line of a request -/

/-- The words of the headers and of the body that a command line sends, behind the URL. -/
def bodyWords (body : Option SnippetBody) : List String :=
  match body with
  | none => []
  | some b => ["-H", "Content-Type: application/json", "-d", b.text]

/-- The part in front of the URL. -/
theorem read_curlStart (method : Method) :
    read .start ("curl -X " ++ method.name ++ " ").toList =
      some ⟨["curl", "-X", method.name].map String.toList, none, .plain⟩ := by
  cases method <;> rfl

/-- The part between the URL and the body, which starts with a space. -/
theorem read_curlHeader (ended : List (List Char)) (word : List Char) :
    read ⟨ended, some word, .plain⟩
        " \\\n  -H 'Content-Type: application/json' \\\n  -d ".toList =
      some ⟨ended ++ [word] ++ ["-H", "Content-Type: application/json", "-d"].map String.toList,
        none, .plain⟩ := by
  -- The words in front stay out of the computation: only the closed text behind the space is read.
  have hspace : " \\\n  -H 'Content-Type: application/json' \\\n  -d ".toList =
      ' ' :: "\\\n  -H 'Content-Type: application/json' \\\n  -d ".toList := by decide
  have hread : read .start "\\\n  -H 'Content-Type: application/json' \\\n  -d ".toList =
      some ⟨["-H", "Content-Type: application/json", "-d"].map String.toList, none, .plain⟩ := rfl
  rw [hspace, read_space, hread, Option.map_some]

/-- **The command line of a request**, read by the rules of a shell, has the words of the request. -/
theorem words_curlCode (method : Method) (url : String) (body : Option SnippetBody) :
    words (Snippet.curlCode method url body) =
      some (["curl", "-X", method.name, url] ++ bodyWords body) := by
  have hfirst : read .start ("curl -X " ++ method.name ++ " " ++ shellQuote url).toList =
      some ⟨["curl", "-X", method.name].map String.toList, some url.toList, .plain⟩ := by
    rw [String.toList_append, read_append, read_curlStart, Option.bind_some, read_shellQuote]
    rfl
  unfold words Snippet.curlCode bodyWords
  cases body with
  | none =>
    rw [hfirst]
    simp
  | some b =>
    rw [String.toList_append, String.toList_append, read_append, read_append, hfirst,
      Option.bind_some, read_curlHeader, Option.bind_some, read_shellQuote, Option.bind_some]
    simp

/-- The body that the snippet of a draft sends: JSON in indented form, other text as it is. -/
theorem bodyWords_ofDraft (method : Method) (draft : String) :
    bodyWords (SnippetBody.ofDraft method draft) =
      if method ≠ .get ∧ isBlankString draft = false then
        ["-H", "Content-Type: application/json", "-d",
          match Json.parse draft with
          | .ok v => v.pretty
          | .error _ => draft]
      else [] := by
  rw [SnippetBody.ofDraft_eq]
  unfold Json.parse?
  split
  · cases Json.parse draft <;> rfl
  · rfl

/-- **The `curl` snippet means exactly the request.** For every method, URL and draft. -/
theorem words_curl_snippet (method : Method) (url draft : String) :
    words (Snippet.generate .curl method url draft).code =
      some (["curl", "-X", method.name, url] ++
        if method ≠ .get ∧ isBlankString draft = false then
          ["-H", "Content-Type: application/json", "-d",
            match Json.parse draft with
            | .ok v => v.pretty
            | .error _ => draft]
        else []) := by
  rw [← bodyWords_ofDraft]
  exact words_curlCode method url _

end ApiConsole.Shell
