import ApiConsole.Endpoint
import ApiConsole.Snippet

/-!
# Commands

The language of the console. A line holds a command word, in any letter case, and what follows it;
blanks around both are dropped. What follows is an endpoint, a target, a category with a search
text, a place or an identity in the history, or plain text.
-/
namespace ApiConsole

open Text

/-- What is to be done with the draft. -/
inductive BodyEdit where
  | display
  | set (text : String)
  | multiline
  deriving DecidableEq, Repr

/-- An entry of the history: its place, counted from one, or its identity. -/
inductive EntryRef where
  | position (n : Nat)
  | id (id : String)
  deriving DecidableEq, Repr

inductive Command where
  | empty
  | list (category : CategoryFilter) (search : String)
  | counts
  | select (id : EndpointId)
  | preview
  | body (edit : BodyEdit)
  | reset
  | format
  | path (text : Option String)
  | query (text : String)
  | send
  | wait
  | images
  | history
  | replay (entry : EntryRef)
  | clearHistory
  | snippet (target : Option SnippetTarget)
  | model (name : Option String)
  | help
  | quit
  deriving DecidableEq, Repr

/-- Why a line is no command. -/
inductive CommandFault where
  | unknown (word : String)
  | endpointMissing
  | entryMissing
  | positionZero
  | refused (refusal : Refusal)
  deriving DecidableEq, Repr

def CommandFault.message : CommandFault → String
  | .unknown word => s!"unknown command '{word}', type 'help' for a list"
  | .endpointMissing => "usage: use <endpoint>"
  | .entryMissing => "usage: replay <n|id>"
  | .positionZero => "usage: replay <n|id>, n starts at 1"
  | .refused refusal => refusal.message

/-! ## Words -/

/-- The commands by the words that call them. -/
inductive CommandWord where
  | list
  | counts
  | select
  | preview
  | body
  | reset
  | format
  | path
  | query
  | send
  | wait
  | images
  | history
  | replay
  | clearHistory
  | snippet
  | model
  | help
  | quit
  deriving DecidableEq, Repr

namespace CommandWord

def all : List CommandWord :=
  [list, counts, select, preview, body, reset, format, path, query, send, wait, images, history,
   replay, clearHistory, snippet, model, help, quit]

/-- The words that call a command. -/
def words : CommandWord → List String
  | list => ["list", "ls"]
  | counts => ["counts"]
  | select => ["use", "select"]
  | preview => ["show"]
  | body => ["body"]
  | reset => ["reset"]
  | format => ["format", "fmt"]
  | path => ["path"]
  | query => ["query"]
  | send => ["send"]
  | wait => ["wait"]
  | images => ["images"]
  | history => ["history"]
  | replay => ["replay"]
  | clearHistory => ["clear-history"]
  | snippet => ["snippet"]
  | model => ["model"]
  | help => ["help", "?"]
  | quit => ["quit", "exit", "q"]

/-- The command that a word calls. -/
def ofWord? (word : String) : Option CommandWord := all.find? (·.words.contains word)

end CommandWord

/-! ## Numbers -/

/-- The greatest position that can be written. -/
def greatestPosition : Nat := UInt64.size - 1

/-- The number that digits denote, with a plus sign in front or not, up to the greatest position. -/
def positionNumber? (text : List Char) : Option Nat :=
  let digits := match text with
    | '+' :: rest => rest
    | rest => rest
  let n := digits.foldl (fun n c => n * 10 + (c.toNat - 48)) 0
  if digits.isEmpty || !digits.all Char.isDigit || greatestPosition < n then none else some n

/-! ## Reading -/

namespace Command

/-- Text that follows a command word; `none` if there is none. -/
def argument? (rest : List Char) : Option String :=
  if rest.isEmpty then none else some (String.ofList rest)

/-- Reads a category and a search text; what does not begin with a category is search text. -/
def parseList (rest : List Char) : Command :=
  let (first, tail) := splitBlank rest
  match CategoryFilter.parse (String.ofList first) with
  | .ok category => .list category (String.ofList (trim tail))
  | .error _ => .list .all (String.ofList rest)

def parseSelect (rest : List Char) : Except CommandFault Command :=
  match argument? rest with
  | none => .error .endpointMissing
  | some key =>
    match EndpointId.parse key with
    | .ok id => .ok (.select id)
    | .error refusal => .error (.refused refusal)

def parseBody (rest : List Char) : Command :=
  if rest.isEmpty then .body .display
  else if rest == ['<', '<'] then .body .multiline
  else .body (.set (String.ofList rest))

def parseReplay (rest : List Char) : Except CommandFault Command :=
  if rest.isEmpty then .error .entryMissing
  else match positionNumber? rest with
    | some 0 => .error .positionZero
    | some n => .ok (.replay (.position n))
    | none => .ok (.replay (.id (String.ofList rest)))

def parseSnippet (rest : List Char) : Except CommandFault Command :=
  match argument? rest with
  | none => .ok (.snippet none)
  | some text =>
    match SnippetTarget.parse text with
    | .ok target => .ok (.snippet (some target))
    | .error refusal => .error (.refused refusal)

/-- Reads what follows a command word. -/
def ofWord (word : CommandWord) (rest : List Char) : Except CommandFault Command :=
  match word with
  | .list => .ok (parseList rest)
  | .counts => .ok .counts
  | .select => parseSelect rest
  | .preview => .ok .preview
  | .body => .ok (parseBody rest)
  | .reset => .ok .reset
  | .format => .ok .format
  | .path => .ok (.path (argument? rest))
  | .query => .ok (.query (String.ofList rest))
  | .send => .ok .send
  | .wait => .ok .wait
  | .images => .ok .images
  | .history => .ok .history
  | .replay => parseReplay rest
  | .clearHistory => .ok .clearHistory
  | .snippet => parseSnippet rest
  | .model => .ok (.model (argument? rest))
  | .help => .ok .help
  | .quit => .ok .quit

/-- Reads a line. -/
def parse (line : String) : Except CommandFault Command :=
  let (word, rest) := splitBlank (trim line.toList)
  if word.isEmpty then .ok .empty
  else
    let word := String.ofList (lower word)
    match CommandWord.ofWord? word with
    | some w => ofWord w (trim rest)
    | none => .error (.unknown word)

end Command

/-- The list of commands that is shown to the operator. -/
def commandHelp : String := String.intercalate "\n" [
  "Commands:",
  "  list [category] [search]   List endpoints (category: all, health, config, models,",
  "                             inference, vision, diffusion, contexts)",
  "  counts                     Endpoint count per category",
  "  use <endpoint>             Select an endpoint by key",
  "  show                       Show the request that would be sent",
  "  body                       Print the body draft",
  "  body <json>                Replace the body draft",
  "  body <<                    Enter a multi-line body, end with a line holding '.'",
  "  reset                      Restore the endpoint's template body",
  "  format                     Pretty-print the body draft",
  "  path [path]                Set the request path (no argument restores the default)",
  "  query [query]              Set the query string (no argument clears it)",
  "  send                       Send the request in the background",
  "  wait                       Wait for outstanding sends and show their responses",
  "  images                     List image URLs found in the last response",
  "  history                    List recent requests",
  "  replay <n|id>              Restore a history entry (1 is the most recent)",
  "  clear-history              Forget all history entries",
  "  snippet [curl|python|fetch] Print the request as code",
  "  model [name]               Show or change the model used by new drafts",
  "  help                       Show this help",
  "  quit                       Leave the console"]

end ApiConsole
