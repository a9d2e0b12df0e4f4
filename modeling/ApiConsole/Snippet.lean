import ApiConsole.Request

/-!
# Snippets

A request written down as code: a command line for `curl`, a script with Python's `requests`, or a
call of the browser's `fetch`. A body is part of the code only if the method carries one and the
draft is not blank; a draft that is JSON is written in indented form, any other draft as it is.
Texts are quoted, so that the code denotes them whatever they hold.
-/
namespace ApiConsole

open Json Text

/-! ## Targets

The languages in which a request can be written down as code. -/

inductive SnippetTarget where
  | curl
  | python
  | fetch
  deriving DecidableEq, Repr

namespace SnippetTarget

def all : List SnippetTarget := [curl, python, fetch]

/-- The short name of a target. -/
def key : SnippetTarget → String
  | curl => "curl"
  | python => "python"
  | fetch => "fetch"

def displayName : SnippetTarget → String
  | curl => "cURL"
  | python => "Python (requests)"
  | fetch => "JavaScript (fetch)"

def fileExtension : SnippetTarget → String
  | curl => "sh"
  | python => "py"
  | fetch => "js"

/-- The name under which a target is stored. -/
def storedName : SnippetTarget → String
  | curl => "shell_curl"
  | python => "script_http_client"
  | fetch => "browser_fetch"

/-- The target with a given stored name. -/
def ofStoredName? (name : String) : Option SnippetTarget := all.find? (·.storedName == name)

/-- The words that name a target. -/
def words : SnippetTarget → List String
  | curl => ["curl", "shell", "sh"]
  | python => ["python", "py", "requests"]
  | fetch => ["fetch", "js", "javascript"]

/-- Reads a target from one of its words, with blanks around it and in any letter case. -/
def parse (text : String) : Except Refusal SnippetTarget :=
  let wanted := String.ofList (Text.lower (Text.trim text.toList))
  match all.find? (·.words.contains wanted) with
  | some t => .ok t
  | none => .error (.unknownTarget wanted)

theorem ofStoredName?_storedName (t : SnippetTarget) : ofStoredName? t.storedName = some t := by
  cases t <;> decide

end SnippetTarget

/-! ## Python literals

A JSON value as a Python expression: `None`, `True` and `False`, numbers and strings as in JSON, and
lists and dictionaries with each item on a line of its own, indented by four spaces a level and with
a comma behind the last one. Empty lists and dictionaries stay closed up. -/

namespace PythonLiteral

/-- The indentation of a level. -/
def indent (level : Nat) : List Char := List.replicate (4 * level) ' '

def boolText (b : Bool) : List Char := (if b then "True" else "False").toList

mutual

/-- The literal of a value whose closing bracket stands at a level. -/
def literal (level : Nat) : Value → List Char
  | .null => "None".toList
  | .bool b => boolText b
  | .number n => n.text
  | .string s => quote s.toList
  | .array items =>
    if items.isEmpty then ['[', ']']
    else '[' :: '\n' :: itemLines (level + 1) items ++ indent level ++ [']']
  | .object members =>
    if members.isEmpty then ['\x7b', '\x7d']
    else '\x7b' :: '\n' :: memberLines (level + 1) members ++ indent level ++ ['\x7d']

/-- The items of a list, a line each. -/
def itemLines (level : Nat) : List Value → List Char
  | [] => []
  | v :: rest => indent level ++ literal level v ++ ',' :: '\n' :: itemLines level rest

/-- The members of a dictionary, a line each. -/
def memberLines (level : Nat) : List (String × Value) → List Char
  | [] => []
  | (k, v) :: rest =>
    indent level ++ quote k.toList ++ ':' :: ' ' :: literal level v ++
      ',' :: '\n' :: memberLines level rest

end

/-- The literal of a value as a string. -/
def text (level : Nat) (v : Value) : String := String.ofList (literal level v)

end PythonLiteral

/-! ## Snippets -/

structure Snippet where
  code : String
  target : SnippetTarget
  imports : List String
  deriving DecidableEq, Repr

/-- The code with the imports in front of it. -/
def Snippet.fullCode (s : Snippet) : String :=
  if s.imports.isEmpty then s.code
  else String.intercalate "\n" s.imports ++ "\n\n" ++ s.code

/-! ## Bodies -/

/-- The body of a snippet: a JSON value, or text that is no JSON. -/
inductive SnippetBody where
  | json (v : Value)
  | raw (text : String)

namespace SnippetBody

/-- The body that a draft gives under a method, if any. -/
def ofDraft (method : Method) (draft : String) : Option SnippetBody :=
  if !method.carriesBody || isBlankString draft then none
  else match parse? draft with
    | some v => some (json v)
    | none => some (raw draft)

theorem ofDraft_eq (method : Method) (draft : String) :
    ofDraft method draft =
      if method ≠ .get ∧ isBlankString draft = false then
        some (match parse? draft with
          | some v => .json v
          | none => .raw draft)
      else none := by
  unfold ofDraft
  by_cases hmethod : method = .get
  · subst hmethod
    rfl
  · have hcarries : method.carriesBody = true := Method.carriesBody_iff.2 hmethod
    cases isBlankString draft with
    | true => simp
    | false =>
      rw [if_neg (by simp [hcarries]), if_pos ⟨hmethod, rfl⟩]
      cases parse? draft <;> rfl

/-- JSON in indented form, other text as it is. -/
def text : SnippetBody → String
  | json v => v.pretty
  | raw s => s

end SnippetBody

/-! ## Code -/

/-- A text in single quotes; a single quote inside is written outside them with a backslash. -/
def shellQuote (s : String) : String :=
  String.ofList ('\'' :: replaceChar '\'' "'\\''".toList s.toList ++ ['\''])

/-- A text whose lines behind the first are indented by two spaces. -/
def indentContinuation (s : String) : String :=
  String.ofList (replaceChar '\n' "\n  ".toList s.toList)

namespace Snippet

def curlCode (method : Method) (url : String) (body : Option SnippetBody) : String :=
  let first := "curl -X " ++ method.name ++ " " ++ shellQuote url
  match body with
  | none => first
  | some b => first ++ " \\\n  -H 'Content-Type: application/json' \\\n  -d " ++ shellQuote b.text

/-- The assignment in front of a Python call. -/
def pythonPreamble : Option SnippetBody → String
  | none => ""
  | some (.json v) => "payload = " ++ PythonLiteral.text 0 v ++ "\n\n"
  | some (.raw s) => "data = " ++ quoteString s ++ "\n\n"

/-- The arguments of a Python call behind the URL. -/
def pythonArguments : Option SnippetBody → String
  | none => ""
  | some (.json _) => "    json=payload,\n"
  | some (.raw _) =>
    "    headers=\x7b\"Content-Type\": \"application/json\"\x7d,\n    data=data,\n"

/-- The method's function in the Python library. -/
def pythonFunction (method : Method) : String := String.ofList (lower method.name.toList)

def pythonCode (method : Method) (url : String) (body : Option SnippetBody) : String :=
  pythonPreamble body ++ "response = requests." ++ pythonFunction method ++ "(\n    " ++
    quoteString url ++ ",\n" ++ pythonArguments body ++
    ")\n\nprint(response.status_code)\nprint(response.text)"

/-- The properties of a `fetch` call behind the method. -/
def fetchProperties : Option SnippetBody → String
  | none => ""
  | some b =>
    "  headers: \x7b\n    'Content-Type': 'application/json',\n  \x7d,\n" ++
      match b with
      | .json _ => "  body: JSON.stringify(" ++ indentContinuation b.text ++ "),\n"
      | .raw s => "  body: " ++ quoteString s ++ ",\n"

def fetchCode (method : Method) (url : String) (body : Option SnippetBody) : String :=
  "const response = await fetch(" ++ quoteString url ++ ", \x7b\n  method: '" ++ method.name ++
    "',\n" ++ fetchProperties body ++
    "\x7d);\n\nconst data = await response.json();\nconsole.log(data);"

/-- The code of a request given by its parts. -/
def generate (target : SnippetTarget) (method : Method) (url draft : String) : Snippet :=
  let body := SnippetBody.ofDraft method draft
  match target with
  | .curl => ⟨curlCode method url body, .curl, []⟩
  | .python => ⟨pythonCode method url body, .python, ["import requests"]⟩
  | .fetch => ⟨fetchCode method url body, .fetch, []⟩

/-- The code of a request. -/
def ofRequest (target : SnippetTarget) (r : Request) : Snippet :=
  generate target r.method r.url (r.body.getD "")

end Snippet

end ApiConsole
