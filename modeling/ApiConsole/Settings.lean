import ApiConsole.Json.Schema
import ApiConsole.Request
import ApiConsole.Snippet
import ApiConsole.Url.Parser

/-!
# Settings

Where requests go, which model the templates name, and the target that requests are exported to.
Settings are stored as a JSON file that may leave out any field. Only the base URL is checked: it
has to be an absolute URL of the scheme `http` or `https`.
-/
namespace ApiConsole

structure Settings where
  baseUrl : String := "http://localhost:6930"
  modelHint : String := "default"
  target : SnippetTarget := .curl
  deriving DecidableEq, Repr

/-- Checks that a text is an absolute URL to which requests can be sent. -/
def checkBaseUrl (text : String) : Except BaseUrlFault Unit :=
  match Url.parse text with
  | .error fault => .error (.malformed fault text)
  | .ok url => if url.isHttp then .ok () else .error (.unsupportedScheme url.scheme text)

/-- What lies at the place of a settings file. -/
inductive FileState where
  | missing
  | directory
  | file (bytes : List UInt8)
  deriving DecidableEq, Repr

/-- Why a settings file cannot be used. -/
inductive LoadFault where
  | isDirectory (path : String)
  | malformed (path : String) (error : Json.ParseError)
  deriving DecidableEq, Repr

/-- What is said of a stored text that is not of its shape. -/
def malformedMessage (e : Json.ParseError) : String :=
  "JSON deserialization failed: " ++ e.message

def LoadFault.message : LoadFault → String
  | .isDirectory path => s!"IO error reading {path}: Is a directory (os error 21)"
  | .malformed path error => s!"Invalid settings in {path}: {malformedMessage error}"

namespace Settings

/-- Checks the base URL. -/
def validate (s : Settings) : Except Refusal Unit :=
  match checkBaseUrl s.baseUrl with
  | .ok () => .ok ()
  | .error fault => .error (.invalidUrl fault)

/-- The stored fields; each may be left out. -/
def fields : Json.Fields :=
  .cons "base_url" .anywhere .text <| .cons "model_hint" .anywhere .text <|
    .cons "snippet_target" .anywhere (.choice (SnippetTarget.all.map (·.storedName))) .nil

/-- A text field, or what stands for it where it is absent. -/
def textOr (absent : String) : Option Json.Datum → Option String
  | none => some absent
  | some (.text s) => some s
  | some _ => none

/-- A target field, or what stands for it where it is absent. -/
def targetOr (absent : SnippetTarget) : Option Json.Datum → Option SnippetTarget
  | none => some absent
  | some (.choice name) => SnippetTarget.ofStoredName? name
  | some _ => none

instance : Json.Stored Settings where
  schema := .record "ConsoleSettings" fields
  toDatum s := .record [some (.text s.baseUrl), some (.text s.modelHint),
    some (.choice s.target.storedName)]
  ofDatum?
    | .record [baseUrl, modelHint, target] => do
      let defaults : Settings := {}
      some ⟨← textOr defaults.baseUrl baseUrl, ← textOr defaults.modelHint modelHint,
        ← targetOr defaults.target target⟩
    | _ => none

/-- The settings in a file; the defaults if there is no file. -/
def load (path : String) : FileState → Except LoadFault Settings
  | .missing => .ok {}
  | .directory => .error (.isDirectory path)
  | .file bytes => (Json.readBytes Settings bytes).mapError (.malformed path)

end Settings

end ApiConsole
