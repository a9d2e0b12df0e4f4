import ApiConsole.Console.Basic
import ApiConsole.Proofs.Session.Run

/-!
# Runs of a console

A console moves when a command is executed, when completions are taken from the queue, and when an
unfinished task ends and puts its completion there. What a move does to the session is a run of
operations on it (`session_step`), so a run of a console is a run of its session (`session_run`).
Commands other than to send and to wait change nothing but the session (`execute_eq`). The command to
wait takes in the queue (`wait_eq`), and a wait that is not answered by this goes on when a task ends
(`waitFor_of_waiting`). Runs may execute other commands meanwhile; a console that reads no line before
a wait is answered has some of these runs only.
-/
namespace ApiConsole

/-- What happens to a session when a completion is taken in. -/
def Completion.op (done : Completion) : Session.Op :=
  match done.result with
  | .ok outcome => .complete ⟨done.seq, outcome⟩
  | .error e => .recordError (invalidBodyMessage e)

namespace Console

/-- What can happen to a console. -/
inductive Move where
  | execute (now : Timestamp) (command : Command)
  | drain
  | take
  | finish (arrival : Arrival)

/-- Takes in the first completion of the queue. -/
def takeOne (c : Console) : Console :=
  match c.completions with
  | done :: rest => (complete { c with completions := rest } done).1
  | [] => c

def step (c : Console) : Move → Console
  | .execute now command => (c.execute now command).1
  | .drain => c.drain.1
  | .take => c.takeOne
  | .finish a => c.finishTask a.seq a.client a.stamp

def run (c : Console) (moves : List Move) : Console := moves.foldl step c

/-- The operations of a command on the session. -/
def commandOps (c : Console) : Command → List Session.Op
  | .select id => [.select id]
  | .body (.set text) => if c.acceptsBody then [.edit text] else []
  | .reset => [.reset]
  | .format => [.format]
  | .path text => [.setPath (text.getD c.session.active.endpoint.path)]
  | .query text => [.setQuery text]
  | .send => [.issue]
  | .wait => c.completions.map Completion.op
  | .replay (.position n) => [.replayNth (n - 1)]
  | .replay (.id id) => [.replay id]
  | .clearHistory => [.clearHistory]
  | .model (some name) => [.setModel name]
  | _ => []

/-- The operations of a move on the session. -/
def moveOps (c : Console) : Move → List Session.Op
  | .execute _ command => c.commandOps command
  | .drain => c.completions.map Completion.op
  | .take => (c.completions.take 1).map Completion.op
  | .finish _ => []

/-- The operations of a run on the session. -/
def sessionOps (c : Console) : List Move → List Session.Op
  | [] => []
  | m :: moves => c.moveOps m ++ (c.step m).sessionOps moves

@[simp] theorem run_nil (c : Console) : c.run [] = c := rfl

@[simp] theorem run_cons (c : Console) (m : Move) (moves : List Move) :
    c.run (m :: moves) = (c.step m).run moves := rfl

theorem run_append (c : Console) (xs ys : List Move) : c.run (xs ++ ys) = (c.run xs).run ys :=
  List.foldl_append

theorem sessionOps_singleton (c : Console) (m : Move) : c.sessionOps [m] = c.moveOps m :=
  List.append_nil _

theorem sessionOps_append (c : Console) (xs ys : List Move) :
    c.sessionOps (xs ++ ys) = c.sessionOps xs ++ (c.run xs).sessionOps ys := by
  induction xs generalizing c with
  | nil => rfl
  | cons m xs ih => simp only [List.cons_append, sessionOps, run_cons, ih, List.append_assoc]

/-! ## Taking in completions -/

/-- Taking in a completion counts it off and hands it to the session. -/
theorem complete_eq (c : Console) (done : Completion) :
    (c.complete done).1 =
      { c with inFlight := c.inFlight - 1, session := c.session.step done.op } := by
  unfold complete Completion.op
  cases done.result <;> rfl

theorem completeAll_eq (c : Console) (dones : List Completion) :
    (c.completeAll dones).1 =
      { c with
        inFlight := c.inFlight - dones.length
        session := c.session.run (dones.map Completion.op) } := by
  induction dones generalizing c with
  | nil => rfl
  | cons done dones ih =>
    show ((c.complete done).1.completeAll dones).1 = _
    rw [ih, complete_eq]
    simp only [List.length_cons, List.map_cons, Session.run_cons, Nat.sub_sub, Nat.add_comm]

theorem drain_eq (c : Console) :
    c.drain.1 =
      { c with
        inFlight := c.inFlight - c.completions.length
        session := c.session.run (c.completions.map Completion.op)
        completions := [] } := by
  unfold drain
  rw [completeAll_eq]

theorem completions_drain (c : Console) : c.drain.1.completions = [] := by rw [drain_eq]

theorem tasks_drain (c : Console) : c.drain.1.tasks = c.tasks := by rw [drain_eq]

theorem takeOne_cons {c : Console} {done : Completion} {rest : List Completion}
    (h : c.completions = done :: rest) :
    c.takeOne =
      { c with
        inFlight := c.inFlight - 1
        session := c.session.step done.op
        completions := rest } := by
  unfold takeOne
  rw [h]
  exact complete_eq ..

/-! ## Tasks that end -/

theorem finishTask_eq {c : Console} {n : Nat} {p : PendingSend}
    (h : c.tasks.find? (·.seq == n) = some p) (client : Request → Answer) (stamp : Stamp) :
    c.finishTask n client stamp =
      { c with
        tasks := c.tasks.eraseP (·.seq == n)
        completions := c.completions ++ [⟨p.seq, (p.execute client stamp).outcome⟩] } := by
  unfold finishTask
  rw [h]

theorem finishTask_of_none {c : Console} {n : Nat} (h : c.tasks.find? (·.seq == n) = none)
    (client : Request → Answer) (stamp : Stamp) : c.finishTask n client stamp = c := by
  unfold finishTask
  rw [h]

theorem session_finishTask (c : Console) (n : Nat) (client : Request → Answer) (stamp : Stamp) :
    (c.finishTask n client stamp).session = c.session := by
  cases h : c.tasks.find? (·.seq == n) with
  | none => rw [finishTask_of_none h]
  | some p => rw [finishTask_eq h]

/-! ## Waiting -/

theorem takeUntilIdle_of_idle {c : Console} (h : c.inFlight = 0) (arrivals : List Arrival) :
    c.takeUntilIdle arrivals = some (c, []) := by
  rw [takeUntilIdle.eq_def, if_pos h]

theorem takeUntilIdle_of_cons {c : Console} {done : Completion} {rest : List Completion}
    (h : c.inFlight ≠ 0) (hc : c.completions = done :: rest) (arrivals : List Arrival) :
    c.takeUntilIdle arrivals =
      (c.takeOne.takeUntilIdle arrivals).map fun (c', replies) =>
        (c', (complete { c with completions := rest } done).2 :: replies) := by
  have htake : c.takeOne = (complete { c with completions := rest } done).1 := by
    unfold takeOne
    rw [hc]
  rw [takeUntilIdle.eq_def, if_neg h, htake]
  split
  · next done' rest' hc' =>
    rw [hc] at hc'
    cases hc'
    rfl
  · next hc' =>
    rw [hc] at hc'
    cases hc'

/-- Whenever the queue is empty, a wait goes on with the next task that ends. -/
theorem takeUntilIdle_of_empty {c : Console} (h : c.inFlight ≠ 0) (hc : c.completions = [])
    (arrivals : List Arrival) :
    c.takeUntilIdle arrivals =
      arrivals.head?.bind fun a =>
        (c.finishTask a.seq a.client a.stamp).takeUntilIdle arrivals.tail := by
  rw [takeUntilIdle.eq_def, if_neg h]
  split
  · next done rest hc' =>
    rw [hc] at hc'
    cases hc'
  · cases arrivals <;> rfl

/-- The command to wait takes in the queue; it is answered if no send is left in flight then. -/
theorem wait_eq (c : Console) :
    c.wait = (c.drain.1, if c.drain.1.inFlight = 0 then waitReply c.drain.2 else .waiting) := by
  show ((c.drain.1.takeUntilIdle []).map _).getD (c.drain.1, Reply.waiting) = _
  by_cases h : c.drain.1.inFlight = 0
  · rw [takeUntilIdle_of_idle h, if_pos h]
    show (c.drain.1, waitReply (c.drain.2 ++ [])) = _
    rw [List.append_nil]
  · rw [takeUntilIdle_of_empty h c.completions_drain, if_neg h]
    rfl

/-- A wait that was not answered goes on where it stopped when a task ends. -/
theorem waitFor_of_waiting {c : Console} (h : c.wait.2 = .waiting) (a : Arrival)
    (arrivals : List Arrival) :
    c.waitFor (a :: arrivals) =
      ((c.wait.1.finishTask a.seq a.client a.stamp).takeUntilIdle arrivals).map
        fun (c', more) => (c', waitReply (c.drain.2 ++ more)) := by
  rw [wait_eq] at h ⊢
  have hbusy : c.drain.1.inFlight ≠ 0 := by
    intro hidle
    rw [if_pos hidle] at h
    cases h
  show (c.drain.1.takeUntilIdle (a :: arrivals)).map _ = _
  rw [takeUntilIdle_of_empty hbusy c.completions_drain]
  rfl

/-! ## Commands -/

theorem send_eq_of_error {c : Console} {fault : SessionFault}
    (h : c.session.beginSend.2 = .error fault) :
    c.send.1 = { c with session := c.session.step .issue } := by
  unfold send Session.step
  cases hb : c.session.beginSend with
  | mk s result =>
    rw [hb] at h
    cases h
    rfl

theorem send_eq_of_ok {c : Console} {p : PendingSend} (h : c.session.beginSend.2 = .ok p) :
    c.send.1 =
      { c with
        session := c.session.step .issue
        inFlight := c.inFlight + 1
        tasks := c.tasks ++ [p] } := by
  unfold send Session.step
  cases hb : c.session.beginSend with
  | mk s result =>
    rw [hb] at h
    cases h
    rfl

theorem editBody_eq (c : Console) (edit : BodyEdit) :
    (c.editBody edit).1 = { c with session := c.session.run (c.commandOps (.body edit)) } := by
  unfold editBody commandOps
  cases c.acceptsBody <;> cases edit <;> rfl

theorem format_eq (c : Console) :
    c.format.1 = { c with session := c.session.run (c.commandOps .format) } := rfl

theorem replay_eq (c : Console) (entry : EntryRef) :
    (c.replay entry).1 = { c with session := c.session.run (c.commandOps (.replay entry)) } := by
  cases entry <;> rfl

/-- **Commands in the foreground** change the session and nothing else. -/
theorem execute_eq (c : Console) (now : Timestamp) {command : Command} (hs : command ≠ .send)
    (hw : command ≠ .wait) :
    (c.execute now command).1 = { c with session := c.session.run (c.commandOps command) } := by
  cases command with
  | send => exact absurd rfl hs
  | wait => exact absurd rfl hw
  | body edit => exact editBody_eq c edit
  | format => exact format_eq c
  | replay entry => exact replay_eq c entry
  | model name => cases name <;> rfl
  | empty | list | counts | select | preview | reset | path | query | images | history
  | clearHistory | snippet | help | quit => rfl

/-- A command other than to wait is at most one operation, and only to send has a part in sending. It
edits only where a body is accepted, and only `format` formats. -/
theorem commandOps_cases (c : Console) {command : Command} (hw : command ≠ .wait) :
    c.commandOps command = [] ∨
      ∃ op, c.commandOps command = [op] ∧ op ≠ .finish ∧
        (command ≠ .send → op.isQuiet = true) ∧
        (∀ text, op = .edit text → c.acceptsBody = true) ∧ (op = .format → command = .format) := by
  cases command with
  | wait => exact absurd rfl hw
  | send => exact .inr ⟨.issue, rfl, nofun, fun hs => absurd rfl hs, nofun, nofun⟩
  | body edit =>
    cases edit with
    | set text =>
      cases ha : c.acceptsBody with
      | true =>
        exact .inr ⟨.edit text, by simp [commandOps, ha], nofun, fun _ => rfl, fun _ _ => rfl, nofun⟩
      | false => exact .inl (by simp [commandOps, ha])
    | display | multiline => exact .inl rfl
  | format => exact .inr ⟨.format, rfl, nofun, fun _ => rfl, nofun, fun _ => rfl⟩
  | replay entry => cases entry <;> exact .inr ⟨_, rfl, nofun, fun _ => rfl, nofun, nofun⟩
  | model name =>
    cases name with
    | none => exact .inl rfl
    | some hint => exact .inr ⟨_, rfl, nofun, fun _ => rfl, nofun, nofun⟩
  | select | reset | path | query | clearHistory =>
    exact .inr ⟨_, rfl, nofun, fun _ => rfl, nofun, nofun⟩
  | empty | list | counts | preview | images | history | snippet | help | quit => exact .inl rfl

/-- A command in the foreground has no part in sending. -/
theorem isQuiet_of_mem_commandOps (c : Console) {command : Command} (hs : command ≠ .send)
    (hw : command ≠ .wait) : ∀ op ∈ c.commandOps command, op.isQuiet = true := by
  obtain h | ⟨op, h, -, hquiet, -⟩ := commandOps_cases c hw
  · rw [h]
    exact List.forall_mem_nil _
  · rw [h]
    exact List.forall_mem_singleton.2 (hquiet hs)

theorem session_execute (c : Console) (now : Timestamp) (command : Command) :
    (c.execute now command).1.session = c.session.run (c.commandOps command) := by
  by_cases hs : command = .send
  · subst hs
    show c.send.1.session = c.session.step .issue
    cases h : c.session.beginSend.2 with
    | error fault => rw [send_eq_of_error h]
    | ok p => rw [send_eq_of_ok h]
  · by_cases hw : command = .wait
    · subst hw
      show c.wait.1.session = _
      rw [wait_eq, drain_eq]
      rfl
    · rw [execute_eq c now hs hw]

/-! ## Moves -/

/-- What the command to wait does is to take in the queue. -/
theorem step_wait (c : Console) (now : Timestamp) :
    c.step (.execute now .wait) = c.step .drain := by
  show c.wait.1 = c.drain.1
  rw [wait_eq]

theorem session_step (c : Console) (m : Move) :
    (c.step m).session = c.session.run (c.moveOps m) := by
  cases m with
  | execute now command => exact session_execute c now command
  | drain => show c.drain.1.session = _; rw [drain_eq]; rfl
  | take =>
    show c.takeOne.session = c.session.run ((c.completions.take 1).map Completion.op)
    cases h : c.completions with
    | nil => unfold takeOne; rw [h]; rfl
    | cons done rest => rw [takeOne_cons h]; rfl
  | finish a => exact session_finishTask c a.seq a.client a.stamp

/-- **The session of a run** has run as well. -/
theorem session_run (c : Console) (moves : List Move) :
    (c.run moves).session = c.session.run (c.sessionOps moves) := by
  induction moves generalizing c with
  | nil => rfl
  | cons m moves ih => rw [run_cons, ih, session_step, sessionOps, Session.run_append]

/-- No move ends the session. -/
theorem finish_not_mem_sessionOps (c : Console) (moves : List Move) :
    .finish ∉ c.sessionOps moves := by
  have hcompletions : ∀ dones : List Completion, .finish ∉ dones.map Completion.op := by
    intro dones hmem
    obtain ⟨done, -, hdone⟩ := List.mem_map.1 hmem
    unfold Completion.op at hdone
    cases hresult : done.result <;> (rw [hresult] at hdone; cases hdone)
  induction moves generalizing c with
  | nil => exact List.not_mem_nil
  | cons m moves ih =>
    rw [sessionOps, List.mem_append, not_or]
    refine ⟨?_, ih _⟩
    cases m with
    | drain | take => exact hcompletions _
    | finish a => exact List.not_mem_nil
    | execute now command =>
      by_cases hw : command = .wait
      · subst hw
        exact hcompletions _
      · change .finish ∉ c.commandOps command
        rcases commandOps_cases c hw with h | ⟨op, h, hop, -⟩
        · rw [h]
          exact List.not_mem_nil
        · rw [h, List.mem_singleton]
          exact hop.symm

end Console

end ApiConsole
