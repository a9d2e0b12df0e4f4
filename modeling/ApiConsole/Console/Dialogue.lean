import ApiConsole.Console.Basic

/-!
# Dialogues

A console in conversation with an operator: it prompts for a line, runs it as a command and shows
the reply. A body may be entered over several lines, up to a line that holds only a point. The
dialogue ends with the command to leave or with the input.
-/
namespace ApiConsole

/-- What is written to the two output channels. -/
structure Output where
  out : String := ""
  err : String := ""
  deriving DecidableEq, Repr

/-- One output behind another. -/
def Output.append (a b : Output) : Output := ⟨a.out ++ b.out, a.err ++ b.err⟩

instance : Append Output := ⟨Output.append⟩

/-- A console and the lines of the body that is being entered. -/
structure Dialogue where
  console : Console
  entry : Option (List String)

namespace Dialogue

def start (console : Console) : Dialogue := ⟨console, none⟩

def greeting (baseUrl : String) : Output :=
  { out := s!"SnapDeck 0.1.0 on {baseUrl}. Type 'help' for commands.\n" }

/-- A reply on a line of its own. A wait is always answered here: all tasks have ended before the next
line is read. -/
def replyOutput : Reply → Output
  | .text s => { out := s ++ "\n" }
  | .silent | .quit | .waiting => {}

/-- Takes in the completions that have arrived, unless a body is being entered, and prompts. -/
def prompt (d : Dialogue) : Dialogue × Output :=
  match d.entry with
  | some _ => (d, { out := "... " })
  | none =>
    let (console, replies) := d.console.drain
    let shown := String.join (replies.map fun r => (replyOutput r).out)
    ({ d with console := console }, { out := shown ++ console.prompt })

/-- Runs a command and shows its reply; `none` once the operator leaves. -/
def runCommand (d : Dialogue) (now : Timestamp) (command : Command) : Option Dialogue × Output :=
  match d.console.execute now command with
  | (_, .quit) => (none, {})
  | (console, reply) => (some ⟨console, none⟩, replyOutput reply)

/-- Runs a line; `none` once the operator leaves. -/
def readLine (d : Dialogue) (now : Timestamp) (line : String) : Option Dialogue × Output :=
  match d.entry with
  | some lines =>
    if Text.trim line.toList == ['.'] then
      d.runCommand now (.body (.set (String.intercalate "\n" lines)))
    else (some { d with entry := some (lines ++ [line]) }, {})
  | none =>
    match Command.parse line with
    | .error fault => (some d, { err := s!"error: {fault.message}\n" })
    | .ok (.body .multiline) =>
      if d.console.acceptsBody then (some { d with entry := some [] }, {})
      else d.runCommand now (.body .multiline)
    | .ok command => d.runCommand now command

/-- What follows the end of the input: a body that is being entered is given up first. -/
def atEnd (d : Dialogue) : Output :=
  match d.entry with
  | some _ => (prompt { d with entry := none }).2
  | none => {}

/-- Executes a task with a client that answers at once. -/
def answer (client : Request → Answer) (now : Timestamp) (c : Console) (p : PendingSend) : Console :=
  c.finishTask p.seq client ⟨toString p.seq, now, 0⟩

/-- Executes all tasks with a client that answers at once. -/
def answerTasks (d : Dialogue) (client : Request → Answer) (now : Timestamp) : Dialogue :=
  { d with console := d.console.tasks.foldl (answer client now) d.console }

/-- The output of a dialogue over the lines of an input. -/
def run (client : Request → Answer) (now : Timestamp) (d : Dialogue) : List String → Output
  | [] =>
    let (d, prompted) := d.prompt
    prompted ++ d.atEnd
  | line :: rest =>
    let (d, prompted) := d.prompt
    match d.readLine now line with
    | (none, shown) => prompted ++ shown
    | (some d, shown) => prompted ++ shown ++ run client now (d.answerTasks client now) rest

end Dialogue

end ApiConsole
