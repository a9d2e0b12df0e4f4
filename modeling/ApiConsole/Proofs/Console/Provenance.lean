import ApiConsole.Proofs.Console.Run
import ApiConsole.Proofs.Session.Provenance

/-!
# Where the completions of a console come from

A task of a console was issued by its session, and a completion in its queue is what came of executing
a task (`Traced`). Every move keeps this (`Traced.step`), so the run of a console's session is genuine,
and an entry of its history records a send that was issued (`exists_sendable_of_entry`).
-/
namespace ApiConsole.Console

open Session (Event Genuine)

/-- What happens to the session in a run. -/
def events (c : Console) (moves : List Move) : List Event := c.session.trace (c.sessionOps moves)

theorem events_append (c : Console) (xs ys : List Move) :
    c.events (xs ++ ys) = c.events xs ++ (c.run xs).events ys := by
  unfold events
  rw [sessionOps_append, Session.trace_append, ← session_run]

theorem events_singleton (c : Console) (m : Move) : c.events [m] = c.session.trace (c.moveOps m) := by
  rw [events, sessionOps_singleton]

/-- A completion is what came of executing a send that had been issued. -/
def Executed (evs : List Event) (done : Completion) : Prop :=
  ∃ p client stamp, .issued p ∈ evs ∧ p.seq = done.seq ∧
    (p.execute client stamp).outcome = done.result

/-- The console of a run with the given events. -/
structure Traced (evs : List Event) (c : Console) : Prop where
  issued : ∀ p ∈ c.tasks, .issued p ∈ evs
  executed : ∀ done ∈ c.completions, Executed evs done
  genuine : Genuine evs

theorem Executed.append {evs : List Event} {done : Completion}
    (h : Executed evs done) (more : List Event) :
    Executed (evs ++ more) done := by
  obtain ⟨p, client, stamp, hp, hexec⟩ := h
  exact ⟨p, client, stamp, List.mem_append_left _ hp, hexec⟩

/-! ## Applying completions -/

/-- A completion of the session stood in the queue. -/
theorem exists_of_completed_mem_trace {s : Session} {dones : List Completion} {d : Completed}
    (h : .completed d ∈ s.trace (dones.map Completion.op)) :
    ∃ done ∈ dones, done.seq = d.seq ∧ done.result = .ok d.outcome := by
  induction dones generalizing s with
  | nil => cases h
  | cons done dones ih =>
    rw [List.map_cons, Session.trace, List.mem_append, Option.mem_toList] at h
    rcases h with h | h
    · refine ⟨done, List.mem_cons_self, ?_⟩
      unfold Completion.op at h
      cases hresult : done.result with
      | error e => rw [hresult] at h; cases h
      | ok outcome => rw [hresult] at h; cases h; exact ⟨rfl, rfl⟩
    · obtain ⟨done', hmem, hdone⟩ := ih h
      exact ⟨done', List.mem_cons_of_mem _ hmem, hdone⟩

namespace Traced

variable {evs : List Event} {c : Console}

/-- Completions from the queue make genuine events. -/
theorem genuine_completions (h : Traced evs c) {dones : List Completion}
    (hdones : ∀ done ∈ dones, done ∈ c.completions) :
    Genuine (evs ++ c.session.trace (dones.map Completion.op)) := by
  refine h.genuine.append fun d hd => ?_
  obtain ⟨done, hmem, hseq, hresult⟩ := exists_of_completed_mem_trace hd
  obtain ⟨p, client, stamp, hp, hpseq, hexec⟩ := h.executed done (hdones done hmem)
  exact ⟨p, client, stamp, hp, hpseq.trans hseq, hexec.trans hresult⟩

/-- Completions that are taken in leave the queue. -/
theorem applied (h : Traced evs c) {dones rest : List Completion} {c' : Console}
    (hqueue : c.completions = dones ++ rest) (htasks : c'.tasks = c.tasks)
    (hrest : c'.completions = rest) :
    Traced (evs ++ c.session.trace (dones.map Completion.op)) c' := by
  refine ⟨fun p hp => ?_, fun done hdone => ?_, h.genuine_completions fun done hdone => ?_⟩
  · exact List.mem_append_left _ (h.issued p (htasks ▸ hp))
  · refine (h.executed done ?_).append _
    rw [hqueue, ← hrest]
    exact List.mem_append_right _ hdone
  · rw [hqueue]
    exact List.mem_append_left _ hdone

theorem finish (h : Traced evs c) (a : Arrival) :
    Traced evs (c.finishTask a.seq a.client a.stamp) := by
  cases hf : c.tasks.find? (·.seq == a.seq) with
  | none => rw [finishTask_of_none hf]; exact h
  | some p =>
    rw [finishTask_eq hf]
    refine ⟨fun q hq => h.issued q (List.mem_of_mem_eraseP hq), fun done hdone => ?_, h.genuine⟩
    rcases List.mem_append.1 hdone with hdone | hdone
    · exact h.executed done hdone
    · rw [List.mem_singleton.1 hdone]
      exact ⟨p, a.client, a.stamp, h.issued p (List.mem_of_find?_eq_some hf), rfl, rfl⟩

theorem send (h : Traced evs c) : Traced (evs ++ c.session.trace [.issue]) c.send.1 := by
  have htrace : c.session.trace [.issue] = (c.session.beginSend.2.toOption.map .issued).toList :=
    List.append_nil _
  rw [htrace]
  cases hb : c.session.beginSend.2 with
  | error fault =>
    rw [send_eq_of_error hb]
    exact ⟨fun p hp => List.mem_append_left _ (h.issued p hp), fun done hdone =>
      (h.executed done hdone).append _, by simpa [Except.toOption] using h.genuine⟩
  | ok p =>
    rw [send_eq_of_ok hb]
    refine ⟨fun q hq => ?_, fun done hdone => (h.executed done hdone).append _,
      h.genuine.concat nofun⟩
    rcases List.mem_append.1 hq with hq | hq
    · exact List.mem_append_left _ (h.issued q hq)
    · rw [List.mem_singleton.1 hq]
      exact List.mem_append_right _ List.mem_cons_self

/-- A command in the foreground completes nothing. -/
theorem foreground (h : Traced evs c) (now : Timestamp) {command : Command} (hs : command ≠ .send)
    (hw : command ≠ .wait) :
    Traced (evs ++ c.session.trace (c.commandOps command)) (c.execute now command).1 := by
  have hquiet := (Session.trace_of_isQuiet c.session (isQuiet_of_mem_commandOps c hs hw)).2
  rw [execute_eq c now hs hw]
  refine ⟨fun p hp => List.mem_append_left _ (h.issued p hp), fun done hdone =>
    (h.executed done hdone).append _, h.genuine.append fun d hd => ?_⟩
  have hmem : d ∈ Session.completedIn (c.session.trace (c.commandOps command)) :=
    List.mem_filterMap.2 ⟨_, hd, rfl⟩
  rw [hquiet] at hmem
  cases hmem

/-- **Every move keeps track of the sends.** -/
theorem step (h : Traced evs c) (m : Move) : Traced (evs ++ c.events [m]) (c.step m) := by
  rw [events_singleton]
  have hdrain : Traced (evs ++ c.session.trace (c.completions.map Completion.op)) c.drain.1 :=
    h.applied (List.append_nil _).symm (by rw [drain_eq]) (by rw [drain_eq])
  cases m with
  | drain => exact hdrain
  | take =>
    change Traced (evs ++ c.session.trace ((c.completions.take 1).map Completion.op)) c.takeOne
    cases hqueue : c.completions with
    | nil =>
      have hsame : c.takeOne = c := by unfold takeOne; rw [hqueue]
      rw [hsame]
      simpa using h
    | cons done rest =>
      rw [takeOne_cons hqueue]
      have hfirst : c.completions = [done] ++ rest := hqueue
      exact h.applied hfirst rfl rfl
  | finish a =>
    change Traced (evs ++ []) _
    rw [List.append_nil]
    exact h.finish a
  | execute now command =>
    by_cases hs : command = .send
    · subst hs
      exact h.send
    · by_cases hw : command = .wait
      · subst hw
        rw [step_wait]
        exact hdrain
      · exact h.foreground now hs hw

theorem run (h : Traced evs c) (moves : List Move) :
    Traced (evs ++ c.events moves) (c.run moves) := by
  induction moves generalizing evs c with
  | nil => rw [show c.events [] = [] from rfl, List.append_nil]; exact h
  | cons m moves ih =>
    have hsplit : c.events (m :: moves) = c.events [m] ++ (c.step m).events moves :=
      events_append c [m] moves
    rw [hsplit, ← List.append_assoc, run_cons]
    exact ih (h.step m)

end Traced

/-- Nothing has happened to a new console. -/
theorem traced_start (s : Session) (target : SnippetTarget) : Traced [] (start s target) where
  issued := nofun
  executed := nofun
  genuine := Session.genuine_nil

/-- **An entry of a console's history records a send that could be sent.** -/
theorem exists_sendable_of_entry {baseUrl hint : String} {rule : ImageRule} {target : SnippetTarget}
    {moves : List Move} {e : HistoryEntry}
    (h : e ∈ ((start (.start baseUrl hint rule) target).run moves).session.history.entries) :
    ∃ r : Request, r.Sendable ∧ e.method = r.method ∧ e.requestBody = r.body.getD "" := by
  rw [session_run] at h
  have hgenuine := ((traced_start (.start baseUrl hint rule) target).run moves).genuine
  obtain ⟨p, client, stamp, hp, -, rfl⟩ := Session.exists_issued_of_entry hgenuine h
  exact ⟨p.request, Session.sendable_of_issued hp, rfl, rfl⟩

end ApiConsole.Console
