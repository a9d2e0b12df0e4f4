import ApiConsole.CommandLine.Run
import Std.Time.DateTime.Timestamp

/-!
# The program

Reads the arguments, the environment, the settings file and the input, and writes what a run comes
to. There is no transport here, so every request that could be sent fails to connect.
-/
namespace ApiConsole.Program

/-- The current time. -/
def currentTime : IO Timestamp := do
  pure (.ofEpoch (← Std.Time.Timestamp.now).toNanosecondsSinceUnixEpoch.val)

/-- What lies at a path. -/
def readFile (path : String) : IO FileState := do
  try
    pure (.file (← IO.FS.readBinFile path).toList)
  catch e =>
    match e with
    | .noFileOrDirectory .. => pure .missing
    | .inappropriateType .. => pure .directory
    | e => throw e

/-- The place of the settings file where the arguments name none. -/
def defaultSettingsPath : IO (Option String) := do
  match ← IO.getEnv "XDG_CONFIG_HOME", ← IO.getEnv "HOME" with
  | some dir, _ => pure (some (dir ++ "/snapdeck/settings.json"))
  | none, some home => pure (some (home ++ "/.config/snapdeck/settings.json"))
  | none, none => pure none

/-- The answer to every request. -/
def client (r : Request) : Answer :=
  .error (r.unsendable?.getD (.notConnected "no transport"))

def write (o : Output) : IO Unit := do
  (← IO.getStderr).putStr o.err
  let out ← IO.getStdout
  out.putStr o.out
  out.flush

/-- Prompts for lines and runs them until the operator leaves or the input ends. -/
partial def converse (input : IO.FS.Stream) (d : Dialogue) : IO Unit := do
  let (d, prompted) := d.prompt
  write prompted
  match CommandLine.inputLines (← input.getLine) with
  | [] => write d.atEnd
  | line :: _ =>
    let now ← currentTime
    let (next, shown) := d.readLine now line
    write shown
    match next with
    | some d => converse input (d.answerTasks client now)
    | none => pure ()

/-- Runs the program and gives its exit status. -/
def run (args : List String) : IO UInt32 := do
  let env : CommandLine.Environment :=
    { baseUrl := ← IO.getEnv "SNAPDECK_BASE_URL"
      model := ← IO.getEnv "SNAPDECK_MODEL"
      settingsPath := ← defaultSettingsPath }
  let path := match CommandLine.Invocation.parse env args with
    | .ok i => CommandLine.settingsPath env i
    | .error _ => none
  let file ← match path with
    | some p => readFile p
    | none => pure .missing
  match CommandLine.plan env (fun _ => file) args with
  | .finished ending =>
    write ending.output
    pure (.ofNat ending.status)
  | .dialogue greeting start =>
    write greeting
    converse (← IO.getStdin) start
    pure 0

end ApiConsole.Program

def main (args : List String) : IO UInt32 := ApiConsole.Program.run args
