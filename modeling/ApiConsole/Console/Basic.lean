import ApiConsole.Console.Command
import ApiConsole.Display
import ApiConsole.Session
import ApiConsole.Snippet

/-!
# Consoles

A session together with its sends in the background. A command that sends adds a task and returns at
once. A task that is executed leaves its completion in a queue; completions change the session only
when they are taken from the queue, in the order in which they got there.
-/
namespace ApiConsole

/-- What the console answers to a command. A wait that goes on is not answered yet. -/
inductive Reply where
  | text (text : String)
  | silent
  | quit
  | waiting
  deriving DecidableEq, Repr

/-- The text of a reply, if it has one. -/
def Reply.text? : Reply → Option String
  | .text s => some s
  | .silent | .quit | .waiting => none

/-- A send that has been executed. -/
structure Completion where
  seq : Nat
  result : Except Json.ParseError Outcome

/-- A task that ends: its number, the client that it is handed to, and the stamp of its record. -/
structure Arrival where
  seq : Nat
  client : Request → Answer
  stamp : Stamp

/-- A console. The sends that were issued and not taken in yet are counted by `inFlight`, which has no
bound here; a run of 2^64 sends is out of reach. -/
structure Console where
  session : Session
  target : SnippetTarget
  inFlight : Nat
  tasks : List PendingSend
  completions : List Completion

namespace Console

/-- A console without sends. -/
def start (session : Session) (target : SnippetTarget) : Console := ⟨session, target, 0, [], []⟩

/-! ## Views -/

/-- Whether the active endpoint sends a body. -/
def acceptsBody (c : Console) : Bool := c.session.active.endpoint.method.carriesBody

/-- The active endpoint, and how many sends have not been taken in yet. -/
def prompt (c : Console) : String :=
  let key := c.session.active.key
  if c.inFlight == 0 then s!"{key}> " else s!"{key} [{c.inFlight} pending]> "

/-- The request that would be sent. -/
def preview (c : Console) : Reply :=
  .text (Display.requestPreview c.session.active.endpoint c.session.composed
    c.session.placeholders)

/-- The warnings about the path. -/
def warnings (c : Console) : Reply :=
  let warnings := c.session.placeholders
  if warnings.isEmpty then .silent
  else .text (Display.lines (warnings.map Display.warningLine))

/-- The images in the response on show. -/
def images (c : Console) : Reply :=
  let urls := c.session.imageUrls
  .text (if urls.isEmpty then "No images in the last response." else Display.lines urls)

/-! ## Background work -/

/-- Executes the task with a given number and puts its completion into the queue. -/
def finishTask (c : Console) (seq : Nat) (client : Request → Answer) (stamp : Stamp) : Console :=
  match c.tasks.find? (·.seq == seq) with
  | none => c
  | some p =>
    { c with
      tasks := c.tasks.eraseP (·.seq == seq)
      completions := c.completions ++ [⟨p.seq, (p.execute client stamp).outcome⟩] }

/-- What is said of a completion whose response is on show now. -/
def shownText (s : Session) (seq : Nat) (r : Response) : String :=
  let count := s.imageUrls.length
  s!"#{seq} " ++ Display.response r ++
    (if count == 0 then "" else s!"\n\n{count} image(s) found, type 'images' to list")

/-- Takes in a completion. -/
def complete (c : Console) (done : Completion) : Console × Reply :=
  let c := { c with inFlight := c.inFlight - 1 }
  match done.result with
  | .error e =>
    let message := invalidBodyMessage e
    ({ c with session := c.session.recordValidationError message },
      .text (Display.validationError message))
  | .ok outcome =>
    let session := c.session.completeSend done.seq outcome
    ({ c with session := session },
      if c.session.isNewer done.seq then .text (shownText session done.seq outcome.response)
      else .text s!"#{done.seq} finished after a newer response; it is in history only.")

/-- Takes in completions in their order. -/
def completeAll (c : Console) : List Completion → Console × List Reply
  | [] => (c, [])
  | done :: rest =>
    let (c, reply) := c.complete done
    let (c, replies) := c.completeAll rest
    (c, reply :: replies)

/-- Takes in all completions of the queue. -/
def drain (c : Console) : Console × List Reply :=
  ({ c with completions := [] } : Console).completeAll c.completions

@[simp] theorem completions_complete (c : Console) (done : Completion) :
    (c.complete done).1.completions = c.completions := by
  unfold complete; split <;> rfl

/-- What an operator who waited is told: the replies that have a text. -/
def waitReply (replies : List Reply) : Reply :=
  let texts := replies.filterMap (·.text?)
  .text (if texts.isEmpty then "No sends outstanding." else String.intercalate "\n\n" texts)

/-- Takes in one completion after another until no send is in flight. Whenever the queue is empty,
the next of the listed tasks ends; `none` if the list is used up first, for then the wait goes on. -/
def takeUntilIdle (c : Console) (arrivals : List Arrival) : Option (Console × List Reply) :=
  if c.inFlight = 0 then some (c, [])
  else
    match _ : c.completions with
    | done :: rest =>
      let next := complete { c with completions := rest } done
      (next.1.takeUntilIdle arrivals).map fun (c, replies) => (c, next.2 :: replies)
    | [] =>
      match arrivals with
      | a :: arrivals => (c.finishTask a.seq a.client a.stamp).takeUntilIdle arrivals
      | [] => none
termination_by (arrivals.length, c.completions.length)
decreasing_by
  · rw [completions_complete, ‹c.completions = done :: rest›]
    exact Prod.Lex.right _ (Nat.lt_succ_self _)
  · exact Prod.Lex.left _ _ (Nat.lt_succ_self _)

/-- Waits until no send is in flight, while the listed tasks end. -/
def waitFor (c : Console) (arrivals : List Arrival) : Option (Console × Reply) :=
  let (c, replies) := c.drain
  (c.takeUntilIdle arrivals).map fun (c, more) => (c, waitReply (replies ++ more))

/-- Waits while no further task ends. A send that is left in flight keeps the wait from being answered;
it goes on as `waitFor` when the tasks end. -/
def wait (c : Console) : Console × Reply := (c.waitFor []).getD (c.drain.1, .waiting)

/-! ## Commands -/

/-- Issues the request as it stands as a task. -/
def send (c : Console) : Console × Reply :=
  match c.session.beginSend with
  | (session, .error fault) =>
    ({ c with session := session }, .text (Display.validationError fault.message))
  | (session, .ok p) =>
    ({ c with
      session := session
      inFlight := c.inFlight + 1
      tasks := c.tasks ++ [p] },
      .text s!"Sent #{p.seq}: {p.request.method.name} {p.request.url}")

/-- Displays or replaces the draft; an endpoint that sends no body keeps its draft. -/
def editBody (c : Console) (edit : BodyEdit) : Console × Reply :=
  let method := c.session.active.endpoint.method.name
  match c.acceptsBody, edit with
  | false, .display => (c, .text s!"(no body: {method})")
  | false, _ =>
    (c, .text s!"{method} requests are sent without a body; the draft was not changed.")
  | true, .display =>
    (c, .text (if c.session.editor.isEmpty then "(empty body)" else c.session.editor))
  | true, .set text => ({ c with session := c.session.editDraft text }, .silent)
  | true, .multiline => (c, .text "multi-line bodies need an interactive console")

/-- What is said of an entry that was restored. -/
def restoredText : ReplayTarget → String
  | .endpoint id => s!"Restored {id.key}."
  | .textOnly => "Restored body and response; no endpoint matches that route."

/-- Restores an entry of the history. -/
def replay (c : Console) (entry : EntryRef) : Console × Reply :=
  let (session, result) := match entry with
    | .position n => c.session.replayNth (n - 1)
    | .id id => c.session.replay id
  ({ c with session := session },
    match result with
    | .error fault => .text fault.message
    | .ok target =>
      let response := match session.response with
        | some r => Display.response r
        | none => ""
      .text (restoredText target ++ "\n" ++ response))

/-- Writes the draft afresh in indented form. -/
def format (c : Console) : Console × Reply :=
  let (session, result) := c.session.formatDraft
  ({ c with session := session },
    match result with
    | .error fault => .text (Display.validationError fault.message)
    | .ok text => .text text)

/-- Runs a command. -/
def execute (c : Console) (now : Timestamp) (command : Command) : Console × Reply :=
  match command with
  | .empty => (c, .silent)
  | .list category search => (c, .text (Display.catalogTable (Catalog.filter category search)))
  | .counts => (c, .text (Display.categoryCounts Catalog.counts))
  | .select id =>
    let c := { c with session := c.session.select id }
    (c, c.preview)
  | .preview => (c, c.preview)
  | .body edit => c.editBody edit
  | .reset =>
    let session := c.session.resetDraft
    ({ c with session := session }, .text session.editor)
  | .format => c.format
  | .path text =>
    let path := text.getD c.session.active.endpoint.path
    let c := { c with session := c.session.setPath path }
    (c, c.warnings)
  | .query text => ({ c with session := c.session.setQuery text }, .silent)
  | .send => c.send
  | .wait => c.wait
  | .images => (c, c.images)
  | .history => (c, .text (Display.history c.session.history.entries now))
  | .replay entry => c.replay entry
  | .clearHistory =>
    ({ c with session := c.session.clearHistory }, .text "History cleared.")
  | .snippet target =>
    (c, .text (Snippet.ofRequest (target.getD c.target) c.session.composed).fullCode)
  | .model none => (c, .text c.session.modelHint)
  | .model (some name) =>
    ({ c with session := c.session.setModelHint name },
      .text "Model updated; use 'reset' to apply it to an existing draft.")
  | .help => (c, .text commandHelp)
  | .quit => (c, .quit)

/-- Forgets what the session holds. -/
def finish (c : Console) : Console := { c with session := c.session.finish }

end Console

end ApiConsole
