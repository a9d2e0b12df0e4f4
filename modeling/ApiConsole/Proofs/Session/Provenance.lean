import ApiConsole.Proofs.Dispatch
import Mathlib.Data.List.Induction

/-!
# Where sends and entries come from

A send in the trace of a run was issued by the session as it stood at that point of the run
(`exists_run_of_issued`), and an entry of the history came in with a completion of the run
(`exists_completed_of_entry`). In a genuine run, completions are what came of executing sends that had
been issued by then; so each entry of its history records an issued send (`exists_issued_of_entry`).
-/
namespace ApiConsole.Session

/-! ## Sends -/

/-- A send in the trace was issued on the way. -/
theorem exists_run_of_issued {s : Session} {ops : List Op} {p : PendingSend}
    (h : .issued p ∈ s.trace ops) : ∃ before after, ops = before ++ .issue :: after ∧
      (s.run before).beginSend.2 = .ok p := by
  induction ops generalizing s with
  | nil => simp at h
  | cons op ops ih =>
    rw [trace, List.mem_append, Option.mem_toList] at h
    rcases h with h | h
    · have heff := effect_step s op
      rw [h] at heff
      have hop : op = .issue := by
        cases op <;> simp [event?] at h ⊢
      subst hop
      exact ⟨[], ops, rfl, heff.beginSend_eq⟩
    · obtain ⟨before, after, hops, hp⟩ := ih h
      exact ⟨op :: before, after, by rw [hops]; rfl, hp⟩

/-! ## Entries -/

theorem exists_completed_of_entry {baseUrl hint : String} {rule : ImageRule} {ops : List Op}
    {e : HistoryEntry} (h : e ∈ ((start baseUrl hint rule).run ops).history.entries) :
    ∃ d, .completed d ∈ (start baseUrl hint rule).trace ops ∧ d.outcome.entry = e := by
  induction ops using List.reverseRecOn with
  | nil => simp [start, select] at h
  | append_singleton ops op ih =>
    have heff := effect_step ((start baseUrl hint rule).run ops) op
    rw [run_append, run_cons, run_nil] at h
    rw [trace_append, trace, trace_nil, List.append_nil]
    -- An entry that was there before the last operation has its completion in the trace before it.
    have hold : e ∈ ((start baseUrl hint rule).run ops).history.entries →
        ∃ d, .completed d ∈ (start baseUrl hint rule).trace ops ++
          (((start baseUrl hint rule).run ops).event? op).toList ∧ d.outcome.entry = e := by
      intro he
      obtain ⟨d, hd, hentry⟩ := ih he
      exact ⟨d, List.mem_append_left _ hd, hentry⟩
    generalize (start baseUrl hint rule).run ops = s at heff h hold
    generalize s.event? op = ev at heff hold ⊢
    generalize s.step op = s' at heff h
    cases heff with
    | issued => exact hold h
    | completed d =>
      rw [completeSend_eq] at h
      have h' : e ∈ (d.outcome.entry :: s.history.entries).take s.history.capacity.toNat := h
      rcases List.mem_cons.1 (List.mem_of_mem_take h') with rfl | he
      · exact ⟨d, by simp, rfl⟩
      · exact hold he
    | restored =>
      rw [(restore_frame s _).2.1] at h
      exact hold h
    | cleared | finished => simp [clearHistory, finish] at h
    | quiet hsame =>
      rw [hsame.history] at h
      exact hold h

/-! ## Genuine runs -/

/-- Every completion is what came of executing a send that had been issued before it. -/
def Genuine (evs : List Event) : Prop :=
  ∀ before d after, evs = before ++ .completed d :: after →
    ∃ p client stamp, .issued p ∈ before ∧ p.seq = d.seq ∧
      (p.execute client stamp).outcome = .ok d.outcome

theorem genuine_nil : Genuine [] := by
  intro before d after h
  simp at h

theorem Genuine.left {xs ys : List Event} (h : Genuine (xs ++ ys)) : Genuine xs := by
  intro before d after hxs
  exact h before d (after ++ ys) (by rw [hxs, List.append_assoc]; rfl)

/-- Completions of sends that had been issued before them all may follow. -/
theorem Genuine.append {xs ys : List Event} (hxs : Genuine xs)
    (hys : ∀ d, .completed d ∈ ys → ∃ p client stamp, .issued p ∈ xs ∧ p.seq = d.seq ∧
      (p.execute client stamp).outcome = .ok d.outcome) : Genuine (xs ++ ys) := by
  intro before d after h
  obtain ⟨mid, rfl, hys'⟩ | ⟨mid, rfl, hmid⟩ := List.append_eq_append_iff.1 h
  · obtain ⟨p, client, stamp, hp, hexec⟩ := hys d (by rw [hys']; simp)
    exact ⟨p, client, stamp, List.mem_append_left _ hp, hexec⟩
  · cases mid with
    | nil =>
      rw [List.nil_append] at hmid
      obtain ⟨p, client, stamp, hp, hexec⟩ := hys d (by rw [← hmid]; exact List.mem_cons_self)
      rw [List.append_nil] at hp
      exact ⟨p, client, stamp, hp, hexec⟩
    | cons ev mid =>
      cases hmid
      exact hxs before d mid rfl

theorem Genuine.concat {evs : List Event} {ev : Event} (h : Genuine evs)
    (hlast : ∀ d, ev = .completed d → ∃ p client stamp, .issued p ∈ evs ∧ p.seq = d.seq ∧
      (p.execute client stamp).outcome = .ok d.outcome) : Genuine (evs ++ [ev]) :=
  h.append fun d hd => hlast d (List.mem_singleton.1 hd).symm

/-- An entry of a genuine run records a send that was issued in it, and that was handed to a client
as it was issued. -/
theorem exists_issued_of_entry {baseUrl hint : String} {rule : ImageRule} {ops : List Op}
    {e : HistoryEntry} (hg : Genuine ((start baseUrl hint rule).trace ops))
    (h : e ∈ ((start baseUrl hint rule).run ops).history.entries) :
    ∃ p client stamp, .issued p ∈ (start baseUrl hint rule).trace ops ∧
      (p.execute client stamp).sent = [p.request] ∧ e = (p.answered client stamp).entry := by
  obtain ⟨d, hd, hentry⟩ := exists_completed_of_entry h
  obtain ⟨before, after, hsplit⟩ := List.append_of_mem hd
  obtain ⟨p, client, stamp, hp, -, hexec⟩ := hg before d after hsplit
  have hissued : .issued p ∈ (start baseUrl hint rule).trace ops := by
    rw [hsplit]
    exact List.mem_append_left _ hp
  have heq := PendingSend.execute_of_sendable (sendable_of_issued hissued) client stamp
  rw [heq] at hexec
  have houtcome : p.answered client stamp = d.outcome := Except.ok.inj hexec
  exact ⟨p, client, stamp, hissued, by rw [heq], by rw [houtcome, hentry]⟩

end ApiConsole.Session
