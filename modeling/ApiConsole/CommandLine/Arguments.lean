import ApiConsole.Endpoint
import ApiConsole.Settings

/-!
# Command-line arguments

Options with two dashes, perhaps with their value behind an equals sign, short options for help and
version, a subcommand, and the options and the operand of that subcommand. Three options may stand
on either side of the subcommand; behind it they count more. An option takes the next argument as
its value unless that looks like an option itself. Behind two dashes alone everything is an operand.

A value that stands as an argument of its own is checked only when the next argument has been
recognized, so an argument that is not recognized is refused first.
-/
namespace ApiConsole.CommandLine

/-- Why arguments do not lead to an action. -/
inductive Stop where
  | help
  | version
  | valueMissing
  | valueRefused
  | unknownArgument
  | unknownSubcommand
  | operandMissing
  | repeated
  | needlessValue
  deriving DecidableEq, Repr

/-! ## Options -/

/-- The parts of a command line that have a name, and the operand. -/
inductive Item where
  | baseUrl
  | model
  | config
  | category
  | search
  | json
  | target
  | path
  | query
  | endpoint
  | help
  | version
  deriving DecidableEq, Repr

/-- The place where arguments are read: before a subcommand, or behind one. -/
inductive Level where
  | top
  | console
  | catalog
  | snippet
  deriving DecidableEq, Repr

/-- The options of every level. -/
def commonOptions : List (String × Item) :=
  [("base-url", .baseUrl), ("model", .model), ("config", .config), ("help", .help)]

namespace Level

/-- The options with two dashes. -/
def options : Level → List (String × Item)
  | top => ("version", .version) :: commonOptions
  | console => commonOptions
  | catalog =>
    ("category", .category) :: ("search", .search) :: ("json", .json) :: commonOptions
  | snippet => ("target", .target) :: ("path", .path) :: ("query", .query) :: commonOptions

/-- The option that a letter behind a single dash stands for. -/
def shortOption? (level : Level) (c : Char) : Option Item :=
  if c == 'h' then some .help
  else if c == 'V' && level == top then some .version else none

end Level

/-- The subcommands; `none` stands for help on one of them. -/
def subcommands : List (String × Option Level) :=
  [("console", some .console), ("catalog", some .catalog), ("snippet", some .snippet),
   ("help", none)]

def Item.takesValue : Item → Bool
  | .json | .help | .version => false
  | _ => true

/-! ## Values -/

/-- What has been given on one level. -/
structure Given where
  baseUrl : Option String := none
  model : Option String := none
  config : Option String := none
  category : Option CategoryFilter := none
  search : Option String := none
  json : Bool := false
  target : Option SnippetTarget := none
  path : Option String := none
  query : Option String := none
  endpoint : Option EndpointId := none
  deriving DecidableEq, Repr

namespace Given

/-- A value for a place that must be empty. -/
def once {α : Type} (old : Option α) (new : Except Stop α) : Except Stop (Option α) :=
  if old.isSome then .error .repeated else new.map some

/-- A value that is read from text. -/
def readValue {α ε : Type} (r : Except ε α) : Except Stop α := r.mapError fun _ => .valueRefused

/-- Puts the value of an item in. -/
def put (g : Given) (item : Item) (value : String) : Except Stop Given :=
  match item with
  | .baseUrl => (once g.baseUrl (.ok value)).map fun v => { g with baseUrl := v }
  | .model => (once g.model (.ok value)).map fun v => { g with model := v }
  | .config =>
    (once g.config (if value.isEmpty then .error .valueMissing else .ok value)).map fun v =>
      { g with config := v }
  | .category =>
    (once g.category (readValue (CategoryFilter.parse value))).map fun v =>
      { g with category := v }
  | .search => (once g.search (.ok value)).map fun v => { g with search := v }
  | .target =>
    (once g.target (readValue (SnippetTarget.parse value))).map fun v => { g with target := v }
  | .path => (once g.path (.ok value)).map fun v => { g with path := v }
  | .query => (once g.query (.ok value)).map fun v => { g with query := v }
  | .endpoint =>
    (once g.endpoint (readValue (EndpointId.parse value))).map fun v => { g with endpoint := v }
  | .json | .help | .version => .ok g

/-- Sets an item without a value. -/
def setItem (g : Given) : Item → Except Stop Given
  | .json => if g.json then .error .repeated else .ok { g with json := true }
  | .help => .error .help
  | .version => .error .version
  | _ => .ok g

end Given

/-! ## Reading one level -/

/-- An item whose value has not been checked yet, or has not been seen. -/
structure Pending where
  item : Item
  value : Option String
  deriving DecidableEq, Repr

/-- How far a level has been read. -/
structure Progress where
  given : Given := {}
  pending : Option Pending := none
  operandSeen : Bool := false
  onlyOperands : Bool := false
  deriving DecidableEq, Repr

namespace Progress

/-- Checks the pending item and puts it in. -/
def settle (p : Progress) : Except Stop Progress :=
  match p.pending with
  | none => .ok p
  | some ⟨_, none⟩ => .error .valueMissing
  | some ⟨item, some value⟩ =>
    (p.given.put item value).map fun g => { p with given := g, pending := none }

/-- The item that waits for the next argument as its value. -/
def awaiting? (p : Progress) : Option Item :=
  match p.pending with
  | some ⟨item, none⟩ => some item
  | _ => none

/-- Sets an item without a value. -/
def setItem (p : Progress) (item : Item) : Except Stop Progress := do
  let p ← p.settle
  let g ← p.given.setItem item
  pure { p with given := g }

/-- Reads what stands behind two dashes. -/
def readLong (level : Level) (p : Progress) (body : List Char) : Except Stop Progress :=
  let name := String.ofList (body.takeWhile (· != '='))
  let value := match body.dropWhile (· != '=') with
    | [] => none
    | _ :: value => some (String.ofList value)
  match level.options.lookup name, value with
  | none, _ => .error .unknownArgument
  | some item, some value =>
    if item.takesValue then do
      let p ← p.settle
      let g ← p.given.put item value
      pure { p with given := g }
    else .error .needlessValue
  | some item, none =>
    if item.takesValue then do
      let p ← p.settle
      pure { p with pending := some ⟨item, none⟩ }
    else p.setItem item

/-- Reads what stands behind a single dash. -/
def readShort (level : Level) (p : Progress) : List Char → Except Stop Progress
  | [] => .ok p
  | c :: rest =>
    match level.shortOption? c with
    | none => .error .unknownArgument
    | some item => (p.setItem item).bind fun p => readShort level p rest

/-- Reads an operand. Only a snippet has one. -/
def readOperand (level : Level) (p : Progress) (arg : String) : Except Stop Progress :=
  match level with
  | .snippet =>
    if p.operandSeen then .error .unknownArgument
    else do
      let p ← p.settle
      pure { p with pending := some ⟨.endpoint, some arg⟩, operandSeen := true }
  | .top =>
    if p.onlyOperands && (subcommands.lookup arg).isSome then .error .unknownArgument
    else .error .unknownSubcommand
  | .console | .catalog => .error .unknownArgument

/-- Reads an argument that is no subcommand. -/
def readArgument (level : Level) (p : Progress) (arg : String) : Except Stop Progress :=
  if p.onlyOperands then p.readOperand level arg
  else match arg.toList with
    | ['-', '-'] => .ok { p with onlyOperands := true }
    | '-' :: '-' :: body => p.readLong level body
    | '-' :: c :: body => p.readShort level (c :: body)
    | _ =>
      match p.awaiting? with
      | some item => .ok { p with pending := some ⟨item, some arg⟩ }
      | none => p.readOperand level arg

end Progress

/-- The subcommand that an argument calls. -/
def subcommand? (level : Level) (p : Progress) (arg : String) : Option (Option Level) :=
  if level == .top && !p.onlyOperands && p.awaiting?.isNone then subcommands.lookup arg else none

/-- Help on the subcommands that follow; there is only one level of them. -/
def helpStop : List String → Stop
  | [] => .help
  | [name] => if (subcommands.lookup name).isSome then .help else .unknownSubcommand
  | _ => .unknownSubcommand

/-- Reads the arguments of a level up to a subcommand. -/
def readLevel (level : Level) : Progress → List String →
    Except Stop (Progress × Option (Level × List String))
  | p, [] => .ok (p, none)
  | p, arg :: rest =>
    match subcommand? level p arg with
    | some none => .error (helpStop rest)
    | some (some sub) => .ok (p, some (sub, rest))
    | none => do readLevel level (← p.readArgument level arg) rest

/-! ## Actions -/

/-- What is to be done. -/
inductive Action where
  | console
  | catalog (category : CategoryFilter) (search : String) (json : Bool)
  | snippet (endpoint : EndpointId) (target : Option SnippetTarget) (path : Option String)
      (query : String)
  deriving DecidableEq, Repr

/-- The action of a level with what was given there. -/
def Given.action (g : Given) : Level → Except Stop Action
  | .top | .console => .ok .console
  | .catalog => .ok (.catalog (g.category.getD .all) (g.search.getD "") g.json)
  | .snippet =>
    match g.endpoint with
    | some id => .ok (.snippet id g.target g.path (g.query.getD ""))
    | none => .error .operandMissing

/-- What the environment gives where the arguments do not. -/
structure Environment where
  baseUrl : Option String := none
  model : Option String := none
  settingsPath : Option String := none
  deriving DecidableEq, Repr

/-- A command line that has been read. -/
structure Invocation where
  baseUrl : Option String
  model : Option String
  config : Option String
  action : Option Action
  deriving DecidableEq, Repr

namespace Invocation

/-- Puts together what stands before a subcommand, what stands behind it, and the environment. -/
def ofGiven (env : Environment) (before behind : Given) (action : Option Action) : Invocation :=
  { baseUrl := (behind.baseUrl.or before.baseUrl).or env.baseUrl
    model := (behind.model.or before.model).or env.model
    config := behind.config.or before.config
    action := action }

/-- Reads a command line. The arguments behind a subcommand are checked before those in front. -/
def parse (env : Environment) (args : List String) : Except Stop Invocation := do
  let (before, sub) ← readLevel .top {} args
  match sub with
  | none => pure (ofGiven env (← before.settle).given {} none)
  | some (level, rest) =>
    let (behind, _) ← readLevel level {} rest
    let behind := (← behind.settle).given
    let action ← behind.action level
    pure (ofGiven env (← before.settle).given behind (some action))

/-- The settings of a file with what the command line puts in their place. -/
def apply (i : Invocation) (s : Settings) : Settings :=
  { s with baseUrl := i.baseUrl.getD s.baseUrl, modelHint := i.model.getD s.modelHint }

end Invocation

end ApiConsole.CommandLine
