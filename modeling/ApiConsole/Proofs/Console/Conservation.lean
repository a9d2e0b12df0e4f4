import ApiConsole.Console.Dialogue
import ApiConsole.Proofs.Console.Balance
import ApiConsole.Proofs.Session.Log

/-!
# No send is lost or counted twice

A wait drains the queue and then takes in one completion after another until no send is in flight.
From a console in balance, with every unfinished task ending once, in any order, it comes to an end
with nothing left (`Balanced.waitFor`), and it is a run of the console itself. The command to wait is
not answered before the last unfinished task has ended (`Balanced.wait_eq_waiting_iff`).

Main theorem `sends_conserved`: after any run of a new console, the sends in flight are the
unfinished tasks and the queued completions; with the completions that were applied they have the
numbers from one to the last, each once; no subtraction in counting off a completion is cut short at
zero; and a wait applies all that is left, with one entry in the history for each.

In a dialogue all tasks have ended before a line is read (`Dialogue.Settled.round`), so there every
wait is answered at once (`Dialogue.Settled.wait`).
-/
namespace ApiConsole.Console

open Session (completedIn logOf)

variable {ds : List Completed} {c : Console}

/-! ## The loop of a wait -/

theorem tasks_takeOne (c : Console) : c.takeOne.tasks = c.tasks := by
  cases hc : c.completions with
  | nil => unfold takeOne; rw [hc]
  | cons done rest => rw [takeOne_cons hc]

/-- Once the first of the unfinished tasks has ended, the others are the unfinished ones. -/
theorem perm_finishTask {a : Arrival} {arrivals : List Arrival}
    (ha : ((a :: arrivals).map (·.seq)).Perm (c.tasks.map (·.seq))) :
    (arrivals.map (·.seq)).Perm ((c.finishTask a.seq a.client a.stamp).tasks.map (·.seq)) := by
  cases hf : c.tasks.find? (·.seq == a.seq) with
  | none =>
    obtain ⟨q, hq, hqa⟩ := List.mem_map.1 (ha.mem_iff.1 List.mem_cons_self)
    have := List.find?_eq_none.1 hf q hq
    simp [hqa] at this
  | some p =>
    obtain ⟨hp, hperm⟩ := perm_eraseP_of_find? hf
    have hmap := ha.trans (hperm.map (·.seq))
    rw [List.map_cons, List.map_cons, hp] at hmap
    rw [finishTask_eq hf]
    exact hmap.cons_inv

namespace Balanced

theorem ops_of_completions (h : Balanced ds c) {dones : List Completion}
    (hd : ∀ done ∈ dones, done ∈ c.completions) :
    ∃ more : List Completed, dones.map Completion.op = more.map .complete := by
  obtain ⟨more, hops, -⟩ := exists_completed fun done hdone => h.executed done (hd done hdone)
  exact ⟨more, hops⟩

/-- **The loop of a wait comes to an end**, with all that was left applied. -/
theorem takeUntilIdle {arrivals : List Arrival} (h : Balanced ds c)
    (ha : (arrivals.map (·.seq)).Perm (c.tasks.map (·.seq))) :
    ∃ replies moves, c.takeUntilIdle arrivals = some (c.run moves, replies) ∧
      (c.run moves).inFlight = 0 ∧
      ∃ more : List Completed, c.sessionOps moves = more.map .complete := by
  -- The recursion of the loop itself; `h` and `ha` hold again in each of its rounds.
  induction c, arrivals using takeUntilIdle.induct generalizing ds with
  | case1 c arrivals hidle =>
    exact ⟨[], [], takeUntilIdle_of_idle hidle arrivals, hidle, [], rfl⟩
  | case2 c arrivals hbusy done rest hc next =>
    rename_i ih
    have hnext : next.1 = c.takeOne := by
      unfold Console.takeOne
      rw [hc]
    rw [hnext] at ih
    obtain ⟨replies, moves, hloop, hidle, more, hops⟩ := ih h.takeOne (by rwa [tasks_takeOne])
    obtain ⟨first, hfirst⟩ := h.ops_of_completions fun _ => List.mem_of_mem_take (i := 1)
    refine ⟨next.2 :: replies, .take :: moves, ?_, hidle, first ++ more, ?_⟩
    · rw [takeUntilIdle_of_cons hbusy hc, hloop]
      rfl
    · rw [sessionOps, List.map_append]
      exact congrArg₂ _ hfirst hops
  | case3 c hbusy hc a arrivals ih =>
    obtain ⟨replies, moves, hloop, hidle, more, hops⟩ := ih (h.finish a) (perm_finishTask ha)
    refine ⟨replies, .finish a :: moves, ?_, hidle, more, hops⟩
    rw [takeUntilIdle_of_empty hbusy hc]
    show (c.finishTask a.seq a.client a.stamp).takeUntilIdle arrivals = _
    rw [hloop]
    rfl
  | case4 c hbusy hc =>
    have hlen := ha.length_eq
    have := h.inFlight
    simp only [List.length_map, List.length_nil, hc] at hlen this
    omega

/-- **A wait comes to an end**; it is a run, and all it does to the session is to complete sends. -/
theorem waitFor {arrivals : List Arrival} (h : Balanced ds c)
    (ha : (arrivals.map (·.seq)).Perm (c.tasks.map (·.seq))) :
    ∃ reply moves, c.waitFor arrivals = some (c.run moves, reply) ∧
      (c.run moves).inFlight = 0 ∧
      ∃ more : List Completed, c.sessionOps moves = more.map .complete := by
  obtain ⟨replies, moves, hloop, hidle, more, hops⟩ :=
    h.drain.takeUntilIdle (by rwa [tasks_drain])
  obtain ⟨first, hfirst⟩ := h.ops_of_completions fun _ => id
  refine ⟨waitReply (c.drain.2 ++ replies), .drain :: moves, ?_, hidle, first ++ more, ?_⟩
  · show (c.drain.1.takeUntilIdle arrivals).map _ = _
    rw [hloop]
    rfl
  · rw [sessionOps, List.map_append]
    exact congrArg₂ _ hfirst hops

/-- The command to wait is answered unless there are unfinished tasks. -/
theorem wait_eq_waiting_iff (h : Balanced ds c) : c.wait.2 = .waiting ↔ c.tasks ≠ [] := by
  have hleft : c.drain.1.inFlight = c.tasks.length := by
    rw [h.drain.inFlight, tasks_drain, completions_drain]
    rfl
  rw [wait_eq, hleft, ← List.length_pos_iff_ne_nil]
  by_cases ht : c.tasks.length = 0
  · rw [if_pos ht, ht]
    exact ⟨nofun, nofun⟩
  · rw [if_neg ht]
    exact ⟨fun _ => Nat.pos_of_ne_zero ht, fun _ => rfl⟩

end Balanced

/-! ## Conservation -/

/-- **No send is lost or counted twice.** For every run of a new console, and every wait behind it
during which the unfinished tasks end, each once and in any order. -/
theorem sends_conserved (baseUrl hint : String) (rule : ImageRule) (target : SnippetTarget)
    (moves : List Move) (c₀ c : Console) (h₀ : c₀ = start (.start baseUrl hint rule) target)
    (hc : c = c₀.run moves) :
    c.inFlight = c.tasks.length + c.completions.length ∧
    (c.tasks.map (·.seq) ++ c.completions.map (·.seq) ++ (c₀.applied moves).map (·.seq)).Perm
      (List.range' 1 c.session.lastIssued) ∧
    (∀ done rest, c.completions = done :: rest →
      (complete { c with completions := rest } done).1.inFlight + 1 = c.inFlight) ∧
    c.drain.1.inFlight + c.completions.length = c.inFlight ∧
    c.session.history.entries =
      (logOf (c₀.session.trace (c₀.sessionOps moves))).take History.defaultCapacity.toNat ∧
    ∀ arrivals : List Arrival, (arrivals.map (·.seq)).Perm (c.tasks.map (·.seq)) →
      ∃ c' reply more ds, c.waitFor arrivals = some (c', reply) ∧
        c' = c₀.run (moves ++ more) ∧ c₀.applied (moves ++ more) = c₀.applied moves ++ ds ∧
        c'.inFlight = 0 ∧ c'.tasks = [] ∧ c'.completions = [] ∧
        c'.session = c.session.run (ds.map .complete) ∧
        c'.session.lastIssued = c.session.lastIssued ∧
        ((c₀.applied moves ++ ds).map (·.seq)).Perm (List.range' 1 c.session.lastIssued) ∧
        c'.session.history.entries =
          ((ds.map (·.outcome.entry)).reverse ++ c.session.history.entries).take
            History.defaultCapacity.toNat := by
  have hstart : Balanced [] c₀ := by
    rw [h₀]
    exact balanced_start rfl target
  have hbal : Balanced (c₀.applied moves) c := by
    rw [hc]
    exact hstart.run moves
  have hcap : c.session.history.capacity = History.defaultCapacity := by
    rw [hc, session_run, Session.capacity_run, h₀]
    rfl
  have hentries : c.session.history.entries =
      (logOf (c₀.session.trace (c₀.sessionOps moves))).take History.defaultCapacity.toNat := by
    rw [hc, session_run, h₀]
    exact Session.entries_run _ rfl
  refine ⟨hbal.inFlight, hbal.numbers, ?_, ?_, hentries, ?_⟩
  · intro done rest hqueue
    have := hbal.inFlight
    rw [hqueue, List.length_cons] at this
    simp only [complete_eq]
    omega
  · have := hbal.inFlight
    simp only [drain_eq]
    omega
  · intro arrivals harrivals
    obtain ⟨reply, more, hwait, hidle, ds, hops⟩ := hbal.waitFor harrivals
    have happlied : c.applied more = ds := applied_of_sessionOps hops
    have hbal' := hbal.run more
    rw [happlied] at hbal'
    have hleft := hbal'.inFlight
    rw [hidle] at hleft
    have htasks : (c.run more).tasks = [] := List.length_eq_zero_iff.1 (by omega)
    have hqueue : (c.run more).completions = [] := List.length_eq_zero_iff.1 (by omega)
    have hsession : (c.run more).session = c.session.run (ds.map .complete) := by
      rw [session_run, hops]
    have hlast := Session.lastIssued_complete c.session ds
    rw [← hsession] at hlast
    have hnum := hbal'.numbers
    rw [htasks, hqueue, hlast] at hnum
    refine ⟨_, reply, more, ds, hwait, ?_, ?_, hidle, htasks, hqueue, hsession, hlast, hnum, ?_⟩
    · rw [run_append, ← hc]
    · rw [applied_append, ← hc, happlied]
    · have hkept : c.session.history.entries =
          c.session.history.entries.take c.session.history.capacity.toNat := by
        rw [hcap, hentries, List.take_take, Nat.min_self]
      rw [hsession, Session.entries_run _ hkept, hcap, Session.trace_complete,
        Session.foldl_logged_completed]

/-- The end of a task whose request timed out. -/
def timeout (n : Nat) : Arrival := ⟨n, fun _ => .error .timedOut, firstStamp⟩

/-- Three sends, the second of which has ended. -/
def threeSends : List Move :=
  [.execute firstStamp.timestamp .send, .execute firstStamp.timestamp .send, .finish (timeout 2),
    .execute firstStamp.timestamp .send]

theorem sends_conserved_three :
    (∃ c' reply, ((start (.start "http://h" "m" .heuristic) .curl).run threeSends).waitFor
        [timeout 3, timeout 1] = some (c', reply) ∧
      c'.inFlight = 0 ∧ c'.session.lastIssued = 3) ∧
    ∃ done, ((start (.start "http://h" "m" .heuristic) .curl).run threeSends).completions = [done] ∧
      (complete { (start (.start "http://h" "m" .heuristic) .curl).run threeSends with
        completions := [] } done).1.inFlight + 1 = 3 := by
  obtain ⟨-, -, hcount, -, -, hwait⟩ :=
    sends_conserved "http://h" "m" .heuristic .curl threeSends _ _ rfl rfl
  obtain ⟨c', reply, more, ds, heq, -, -, hidle, -, -, -, hlast, -⟩ :=
    hwait [timeout 3, timeout 1] (.swap _ _ _)
  exact ⟨⟨c', reply, heq, hidle, hlast⟩, _, rfl, hcount _ _ rfl⟩

end ApiConsole.Console

/-! ## Waits in a dialogue -/

namespace ApiConsole.Dialogue

open Console (Balanced)

/-- A dialogue over a console in balance whose tasks have all ended. -/
def Settled (d : Dialogue) : Prop := ∃ ds, Balanced ds d.console ∧ d.console.tasks = []

theorem settled_start (baseUrl hint : String) (rule : ImageRule) (target : SnippetTarget) :
    (start (.start (.start baseUrl hint rule) target)).Settled :=
  ⟨[], Console.balanced_start rfl target, rfl⟩

/-- A client that answers at once ends all tasks. -/
theorem balanced_answer {ds : List Completed} {c : Console} {ps : List PendingSend}
    (h : Balanced ds c) (ht : c.tasks = ps) (client : Request → Answer) (now : Timestamp) :
    Balanced ds (ps.foldl (answer client now) c) ∧ (ps.foldl (answer client now) c).tasks = [] := by
  induction ps generalizing c with
  | nil => exact ⟨h, ht⟩
  | cons p ps ih =>
    have hfind : c.tasks.find? (·.seq == p.seq) = some p := by
      rw [ht]
      exact List.find?_cons_of_pos (beq_self_eq_true p.seq)
    refine ih (h.finish ⟨p.seq, client, ⟨toString p.seq, now, 0⟩⟩) ?_
    unfold answer
    rw [Console.finishTask_eq hfind, ht]
    show (p :: ps).eraseP (·.seq == p.seq) = ps
    exact List.eraseP_cons_of_pos (beq_self_eq_true p.seq)

theorem settled_answerTasks {d : Dialogue} {ds : List Completed} (h : Balanced ds d.console)
    (client : Request → Answer) (now : Timestamp) : (d.answerTasks client now).Settled :=
  ⟨ds, balanced_answer h rfl client now⟩

/-- A command that does not end the dialogue keeps the balance, for it is a move of the console. -/
theorem balanced_runCommand {d d' : Dialogue} {ds : List Completed} {now : Timestamp}
    {command : Command} (h : Balanced ds d.console)
    (hrun : (d.runCommand now command).1 = some d') : ∃ ds', Balanced ds' d'.console := by
  have hstep : Balanced _ (d.console.execute now command).1 := h.step (.execute now command)
  unfold runCommand at hrun
  cases hexec : d.console.execute now command with
  | mk c' reply =>
    rw [hexec] at hrun hstep
    cases reply with
    | quit => cases hrun
    | text | silent | waiting =>
      cases hrun
      exact ⟨_, hstep⟩

/-- A line is a command, or it leaves the console as it is. -/
theorem balanced_readLine {d d' : Dialogue} {ds : List Completed} {now : Timestamp} {line : String}
    (h : Balanced ds d.console) (hline : (d.readLine now line).1 = some d') :
    ∃ ds', Balanced ds' d'.console := by
  unfold readLine at hline
  split at hline
  -- A body is being entered: its last line is a command, the others are kept.
  · split at hline
    · exact balanced_runCommand h hline
    · cases hline
      exact ⟨ds, h⟩
  · split at hline
    · cases hline
      exact ⟨ds, h⟩
    · split at hline
      · cases hline
        exact ⟨ds, h⟩
      · exact balanced_runCommand h hline
    · exact balanced_runCommand h hline

namespace Settled

variable {d d' : Dialogue}

theorem prompt (h : d.Settled) : d.prompt.1.Settled := by
  obtain ⟨ds, hbal, htasks⟩ := h
  unfold Dialogue.prompt
  cases d.entry with
  | some lines => exact ⟨ds, hbal, htasks⟩
  | none => exact ⟨_, hbal.drain, d.console.tasks_drain.trans htasks⟩

/-- **Every round of a dialogue** leaves all tasks ended. -/
theorem round (h : d.Settled) {now : Timestamp} {line : String}
    (hline : (d.prompt.1.readLine now line).1 = some d') (client : Request → Answer) :
    (d'.answerTasks client now).Settled := by
  obtain ⟨ds, hbal, -⟩ := h.prompt
  obtain ⟨ds', hbal'⟩ := balanced_readLine hbal hline
  exact settled_answerTasks hbal' client now

/-- So a wait is answered, whatever was sent before. -/
theorem wait (h : d.Settled) : d.prompt.1.console.wait.2 ≠ .waiting := by
  obtain ⟨ds, hbal, htasks⟩ := h.prompt
  exact fun hwaiting => hbal.wait_eq_waiting_iff.1 hwaiting htasks

end Settled

end ApiConsole.Dialogue
