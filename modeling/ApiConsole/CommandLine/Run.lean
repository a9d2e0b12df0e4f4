import ApiConsole.CommandLine.Arguments
import ApiConsole.Console.Dialogue
import ApiConsole.Storage
import ApiConsole.Text.Basic

/-!
# Runs of the program

What the program writes and how it exits, for its arguments, its environment, the files it may read
and its input. Settings come from a file, with the command line and the environment in front of it;
they are checked before anything else happens. Arguments that are refused end a run with status two,
anything else that fails with status one.
-/
namespace ApiConsole.CommandLine

/-- The output of a run and its exit status. -/
structure Ending where
  status : Nat
  output : Output
  deriving DecidableEq, Repr

/-! ## Messages -/

def versionText : String := "snapdeck 0.1.0\n"

def usageText : String := String.intercalate "\n" [
  "Interactive console for exploring and replaying SnapLLM API calls",
  "",
  "Usage: snapdeck [OPTIONS] [COMMAND]",
  "",
  "Commands:",
  "  console  Start the interactive console",
  "  catalog  Print the endpoint catalog",
  "  snippet  Print a snippet for an endpoint's template request",
  "  help     Print this message",
  "",
  "Options:",
  "      --base-url <BASE_URL>  Base URL of the SnapLLM server",
  "      --model <MODEL>        Model name substituted into request templates",
  "      --config <PATH>        Settings file to read instead of the platform default",
  "  -h, --help                 Print help",
  "  -V, --version              Print version",
  ""]

/-- How a run ends whose arguments do not lead to an action. -/
def Stop.ending : Stop → Ending
  | .help => ⟨0, { out := usageText }⟩
  | .version => ⟨0, { out := versionText }⟩
  | _ => ⟨2, { err := usageText }⟩

open Text in
/-- The form in which a fault of the settings file is reported. -/
def faultReport : LoadFault → String
  | .isDirectory path =>
    "Io \x7b path: " ++ escapedString path ++
      ", source: Os \x7b code: 21, kind: IsADirectory, message: \"Is a directory\" \x7d \x7d"
  | .malformed path error =>
    "Serialization \x7b path: " ++ escapedString path ++ ", source: Deserialize(Error(" ++
      escapedString error.cause.message ++ ", line: " ++ toString error.line ++
      ", column: " ++ toString error.column ++ ")) \x7d"

/-- The form in which a fault of the base URL is reported. -/
def urlReport (fault : BaseUrlFault) : String :=
  "InvalidUrl(" ++ Text.escapedString fault.message ++ ")"

/-- The ending of a run that fails. -/
def failure (report : String) : Ending := ⟨1, { err := "Error: " ++ report ++ "\n" }⟩

/-! ## Actions -/

/-- The endpoints as a table or as JSON. -/
def catalogText (category : CategoryFilter) (search : String) (json : Bool) : String :=
  let endpoints := Catalog.filter category search
  if json then Catalog.text endpoints else Display.catalogTable endpoints ++ "\n"

/-- The template request of an endpoint as code. -/
def snippetText (s : Settings) (id : EndpointId) (target : Option SnippetTarget)
    (path : Option String) (query : String) : String :=
  let e := id.endpoint
  let request := composeRequest s.baseUrl e.method (path.getD e.path) query
    (id.templateText s.modelHint)
  (Snippet.ofRequest (target.getD s.target) request).fullCode ++ "\n"

/-- The console that settings lead to. -/
def consoleOf (s : Settings) : Console :=
  .start (.start s.baseUrl s.modelHint .heuristic) s.target

/-- The lines of an input, without the marks at their ends. -/
def inputLines (input : String) : List String :=
  (Text.splitLines input.toList).map String.ofList

/-! ## Runs -/

/-- The settings of a run, checked. -/
def settingsOf (path : Option String) (file : FileState) (i : Invocation) :
    Except Ending Settings := do
  let stored ← (Settings.load (path.getD "") file).mapError (failure ∘ faultReport)
  let s := i.apply stored
  match checkBaseUrl s.baseUrl with
  | .ok () => pure s
  | .error fault => throw (failure (urlReport fault))

/-- What a run comes to before any input is read. -/
inductive Plan where
  | finished (ending : Ending)
  | dialogue (greeting : Output) (start : Dialogue)

/-- What a run with checked settings comes to. -/
def planAction (s : Settings) : Action → Plan
  | .console => .dialogue (Dialogue.greeting s.baseUrl) (.start (consoleOf s))
  | .catalog category search json =>
    .finished ⟨0, { out := catalogText category search json }⟩
  | .snippet id target path query =>
    .finished ⟨0, { out := snippetText s id target path query }⟩

/-- The file that a run reads its settings from. -/
def settingsPath (env : Environment) (i : Invocation) : Option String :=
  i.config.or env.settingsPath

/-- What a run comes to before any input is read, given the files by their paths. -/
def plan (env : Environment) (files : String → FileState) (args : List String) : Plan :=
  match Invocation.parse env args with
  | .error stop => .finished stop.ending
  | .ok i =>
    let path := settingsPath env i
    let file := match path with
      | some p => files p
      | none => .missing
    match settingsOf path file i with
    | .error ending => .finished ending
    | .ok s => planAction s (i.action.getD .console)

/-- Runs the program. -/
def run (env : Environment) (files : String → FileState) (client : Request → Answer)
    (now : Timestamp) (args : List String) (input : String) : Ending :=
  match plan env files args with
  | .finished ending => ending
  | .dialogue greeting start => ⟨0, greeting ++ start.run client now (inputLines input)⟩

end ApiConsole.CommandLine
