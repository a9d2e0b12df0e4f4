import ApiConsole.Proofs.Console.Run
import ApiConsole.Proofs.Dispatch
import Mathlib.Data.List.Perm.Basic

/-!
# The balance of a console

The sends that a console counts are its unfinished tasks and the completions in its queue, and each
number that was given out belongs to one of them or to a completion that was applied (`Balanced`).
Every move keeps this balance (`Balanced.step`): a send adds a task, a task that ends becomes a
completion, and a completion that is taken in is applied.
-/
namespace ApiConsole.Console

open Session (completedIn)

/-- The completions that a run applies to the session, in their order. -/
def applied (c : Console) (moves : List Move) : List Completed :=
  completedIn (c.session.trace (c.sessionOps moves))

theorem applied_append (c : Console) (xs ys : List Move) :
    c.applied (xs ++ ys) = c.applied xs ++ (c.run xs).applied ys := by
  unfold applied
  rw [sessionOps_append, Session.trace_append, Session.completedIn_append, ← session_run]

theorem applied_cons (c : Console) (m : Move) (moves : List Move) :
    c.applied (m :: moves) = c.applied [m] ++ (c.step m).applied moves :=
  applied_append c [m] moves

theorem applied_of_sessionOps {c : Console} {moves : List Move} {ds : List Completed}
    (h : c.sessionOps moves = ds.map .complete) : c.applied moves = ds := by
  unfold applied
  rw [h, Session.trace_complete, Session.completedIn_map]

/-! ## Tasks and completions -/

/-- A task that is found by its number is the one that is taken out. -/
theorem perm_eraseP_of_find? {n : Nat} {tasks : List PendingSend} {p : PendingSend}
    (h : tasks.find? (·.seq == n) = some p) :
    p.seq = n ∧ tasks.Perm (p :: tasks.eraseP (·.seq == n)) := by
  obtain ⟨hp, before, after, htasks, hbefore⟩ := List.find?_eq_some_iff_append.1 h
  have herase : (p :: after).eraseP (·.seq == n) = after := List.eraseP_cons_of_pos hp
  refine ⟨by simpa using hp, ?_⟩
  rw [htasks, List.eraseP_append_right _ (by simpa using hbefore), herase]
  exact List.perm_middle

/-- What was executed is completed with the numbers that stand in the queue. -/
theorem exists_completed {dones : List Completion}
    (h : ∀ done ∈ dones, ∃ outcome, done.result = .ok outcome) :
    ∃ ds : List Completed, dones.map Completion.op = ds.map .complete ∧
      ds.map (·.seq) = dones.map (·.seq) := by
  induction dones with
  | nil => exact ⟨[], rfl, rfl⟩
  | cons done dones ih =>
    obtain ⟨⟨outcome, hdone⟩, hdones⟩ := List.forall_mem_cons.1 h
    obtain ⟨ds, hops, hseqs⟩ := ih hdones
    refine ⟨⟨done.seq, outcome⟩ :: ds, ?_, ?_⟩
    · rw [List.map_cons, List.map_cons, hops]
      unfold Completion.op
      rw [hdone]
    · rw [List.map_cons, List.map_cons, hseqs]

/-! ## The balance -/

/-- The balance of a console to whose session the given completions were applied. -/
structure Balanced (ds : List Completed) (c : Console) : Prop where
  inFlight : c.inFlight = c.tasks.length + c.completions.length
  sendable : ∀ p ∈ c.tasks, p.request.Sendable
  executed : ∀ done ∈ c.completions, ∃ outcome, done.result = .ok outcome
  numbers : (c.tasks.map (·.seq) ++ c.completions.map (·.seq) ++ ds.map (·.seq)).Perm
    (List.range' 1 c.session.lastIssued)

theorem balanced_start {s : Session} (h : s.lastIssued = 0) (target : SnippetTarget) :
    Balanced [] (start s target) where
  inFlight := rfl
  sendable := nofun
  executed := nofun
  numbers := by
    show List.Perm [] (List.range' 1 s.lastIssued)
    rw [h]
    exact .nil

namespace Balanced

variable {ds : List Completed} {c : Console}

/-! ## Commands -/

/-- A change of the session that issues nothing keeps the balance. -/
theorem withSession (h : Balanced ds c) {s : Session} (hs : s.lastIssued = c.session.lastIssued) :
    Balanced ds { c with session := s } where
  inFlight := h.inFlight
  sendable := h.sendable
  executed := h.executed
  numbers := by rw [hs]; exact h.numbers

/-- A send that is issued adds a task with the next number. -/
theorem send (h : Balanced ds c) : Balanced ds c.send.1 := by
  have hlast := (Session.numbers_step c.session .issue).2
  rw [Session.event?_issue] at hlast
  cases hb : c.session.beginSend.2 with
  | error fault =>
    rw [hb] at hlast
    rw [send_eq_of_error hb]
    exact h.withSession hlast
  | ok p =>
    rw [hb] at hlast
    replace hlast : (c.session.step .issue).lastIssued = c.session.lastIssued + 1 := hlast
    obtain ⟨-, hseq, -⟩ := Session.beginSend_eq_ok_iff.1 hb
    rw [send_eq_of_ok hb]
    refine ⟨?_, ?_, h.executed, ?_⟩
    · simp only [List.length_append, List.length_singleton, h.inFlight]
      omega
    · intro q hq
      rcases List.mem_append.1 hq with hq | hq
      · exact h.sendable q hq
      · rw [List.mem_singleton.1 hq]
        exact Session.sendable_of_beginSend hb
    · have hnum := h.numbers
      rw [List.append_assoc] at hnum
      simp only [hlast, List.map_append, List.map_singleton, hseq, List.append_assoc,
        List.range'_1_concat, Nat.add_comm 1]
      refine List.perm_middle.trans ?_
      exact (hnum.cons _).trans (List.perm_append_singleton _ _).symm

/-- A command in the foreground neither issues nor applies a send. -/
theorem foreground (h : Balanced ds c) (now : Timestamp) {command : Command} (hs : command ≠ .send)
    (hw : command ≠ .wait) :
    c.applied [.execute now command] = [] ∧ Balanced ds (c.execute now command).1 := by
  obtain ⟨hissued, hcompleted⟩ :=
    Session.trace_of_isQuiet c.session (isQuiet_of_mem_commandOps c hs hw)
  have hlast := Session.lastIssued_run c.session (c.commandOps command)
  rw [hissued] at hlast
  constructor
  · unfold applied
    rw [sessionOps_singleton]
    exact hcompleted
  · rw [execute_eq c now hs hw]
    exact h.withSession hlast

/-! ## Completions -/

/-- Completions from the front of the queue are applied to the session, each with its number. -/
theorem takeFront (h : Balanced ds c) {dones rest : List Completion}
    (hc : c.completions = dones ++ rest) :
    ∃ more : List Completed, dones.map Completion.op = more.map .complete ∧
      more.map (·.seq) = dones.map (·.seq) ∧
      Balanced (ds ++ more)
        { c with
          inFlight := c.inFlight - dones.length
          session := c.session.run (dones.map Completion.op)
          completions := rest } := by
  obtain ⟨more, hops, hseqs⟩ := exists_completed fun done hdone =>
    h.executed done (by rw [hc]; exact List.mem_append_left _ hdone)
  refine ⟨more, hops, hseqs, ?_, h.sendable, ?_, ?_⟩
  · have := h.inFlight
    simp only [hc, List.length_append] at this ⊢
    omega
  · intro done hdone
    exact h.executed done (by rw [hc]; exact List.mem_append_right _ hdone)
  · have hnum := h.numbers
    rw [hc, List.map_append] at hnum
    rw [hops, Session.lastIssued_complete, List.map_append, hseqs]
    refine .trans ?_ hnum
    -- What was in front of the queue is now behind what was applied before.
    simp only [List.append_assoc]
    refine .append_left _ ?_
    rw [← List.append_assoc]
    exact List.perm_append_comm

theorem drain (h : Balanced ds c) : Balanced (ds ++ c.applied [.drain]) c.drain.1 := by
  obtain ⟨more, hops, -, hbal⟩ := h.takeFront (List.append_nil c.completions).symm
  rw [applied_of_sessionOps ((sessionOps_singleton c .drain).trans hops), drain_eq]
  exact hbal

theorem takeOne (h : Balanced ds c) : Balanced (ds ++ c.applied [.take]) c.takeOne := by
  cases hc : c.completions with
  | nil =>
    have hops : c.sessionOps [.take] = ([] : List Completed).map .complete := by
      rw [sessionOps_singleton, moveOps, hc]
      rfl
    have hstay : c.takeOne = c := by
      unfold Console.takeOne
      rw [hc]
    rw [applied_of_sessionOps hops, List.append_nil, hstay]
    exact h
  | cons done rest =>
    obtain ⟨more, hmore, -, hbal⟩ := h.takeFront (hc.trans List.singleton_append.symm)
    have hops : c.sessionOps [.take] = more.map .complete := by
      rw [sessionOps_singleton, moveOps, hc]
      exact hmore
    rw [applied_of_sessionOps hops, takeOne_cons hc]
    exact hbal

/-! ## Tasks that end -/

/-- A task that ends becomes a completion with its number, for an issued send can be sent. -/
theorem finish (h : Balanced ds c) (a : Arrival) :
    Balanced ds (c.finishTask a.seq a.client a.stamp) := by
  cases hf : c.tasks.find? (·.seq == a.seq) with
  | none => rw [finishTask_of_none hf]; exact h
  | some p =>
    obtain ⟨-, hperm⟩ := perm_eraseP_of_find? hf
    have hp : p.request.Sendable := h.sendable p (List.mem_of_find?_eq_some hf)
    rw [finishTask_eq hf, PendingSend.execute_of_sendable hp]
    refine ⟨?_, ?_, ?_, ?_⟩
    · have := hperm.length_eq
      have := h.inFlight
      simp only [List.length_append, List.length_cons, List.length_nil] at *
      omega
    · exact fun q hq => h.sendable q (List.mem_of_mem_eraseP hq)
    · intro done hdone
      rcases List.mem_append.1 hdone with hdone | hdone
      · exact h.executed done hdone
      · rw [List.mem_singleton.1 hdone]
        exact ⟨_, rfl⟩
    · refine .trans (.append_right _ ?_) h.numbers
      rw [List.map_append, ← List.append_assoc]
      refine (List.perm_append_singleton _ _).trans ?_
      exact (hperm.map (·.seq)).symm.append_right _

/-! ## Runs -/

/-- **Every move keeps the balance.** -/
theorem step (h : Balanced ds c) (m : Move) : Balanced (ds ++ c.applied [m]) (c.step m) := by
  cases m with
  | drain => exact h.drain
  | take => exact h.takeOne
  | finish a =>
    rw [show c.applied [.finish a] = [] from rfl, List.append_nil]
    exact h.finish a
  | execute now command =>
    by_cases hs : command = .send
    · subst hs
      have happlied : c.applied [.execute now .send] = [] := by
        unfold applied
        rw [sessionOps_singleton]
        show completedIn (c.session.trace [.issue]) = []
        rw [Session.trace, Session.event?_issue]
        cases c.session.beginSend.2 <;> rfl
      rw [happlied, List.append_nil]
      exact h.send
    · by_cases hw : command = .wait
      · subst hw
        rw [step_wait]
        exact h.drain
      · obtain ⟨happlied, hbal⟩ := h.foreground now hs hw
        rw [happlied, List.append_nil]
        exact hbal

theorem run (h : Balanced ds c) (moves : List Move) :
    Balanced (ds ++ c.applied moves) (c.run moves) := by
  induction moves generalizing ds c with
  | nil => rw [show c.applied [] = [] from rfl, List.append_nil]; exact h
  | cons m moves ih =>
    rw [applied_cons, ← List.append_assoc, run_cons]
    exact ih (h.step m)

end Balanced

end ApiConsole.Console
