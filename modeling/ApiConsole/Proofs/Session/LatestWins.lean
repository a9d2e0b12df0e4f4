import ApiConsole.Proofs.Session.Run
import Mathlib.Data.List.MinMax
import Mathlib.Data.List.Nodup

/-!
# The response on show

Of a session, three fields decide which response is on show: the last number given out, the number
on show and the response itself. A run changes them by its events alone (`pane_run`). Between two
restored entries the send on show is the newest one that was completed, the first completion of it
(`foldl_after`), so the order of the completions does not matter.

Main theorem `response_latest_wins`: after any run, the response on show is that of the newest send
among those that were issued and completed since the last entry was restored; without one it is the
response of that entry, if there is one.
-/
namespace ApiConsole.Session

/-- What decides on the response on show. -/
structure Pane where
  lastIssued : Nat
  displayed : Nat
  response : Option Response

def pane (s : Session) : Pane := ⟨s.lastIssued, s.displayed, s.response⟩

def Pane.after (v : Pane) : Event → Pane
  | .issued _ => { v with lastIssued := v.lastIssued + 1 }
  | .completed d =>
    if v.displayed < d.seq then { v with displayed := d.seq, response := some d.outcome.response }
    else v
  | .restored e => { v with displayed := v.lastIssued, response := some e.response }
  | .cleared => v
  | .finished => { v with response := none }

theorem pane_step (s : Session) (op : Op) :
    (s.step op).pane = (s.event? op).toList.foldl Pane.after s.pane := by
  have h := effect_step s op
  generalize s.event? op = ev at h
  generalize s.step op = s' at h
  cases h with
  | issued | cleared | finished => rfl
  | completed d =>
    rw [completeSend_eq]
    by_cases h : s.displayed < d.seq <;> simp [pane, Pane.after, h]
  | restored _ =>
    obtain ⟨-, -, hlast, hdisp, hresp, -⟩ := restore_frame s ‹_›
    simp [pane, Pane.after, hlast, hdisp, hresp]
  | quiet h => simp [pane, h.lastIssued, h.displayed, h.response]

theorem pane_run (s : Session) (ops : List Op) :
    (s.run ops).pane = (s.trace ops).foldl Pane.after s.pane := by
  induction ops generalizing s with
  | nil => rfl
  | cons op ops ih => rw [run_cons, ih, pane_step, trace, List.foldl_append]

theorem finish_mem_of_finished_mem {s : Session} {ops : List Op} (h : .finished ∈ s.trace ops) :
    .finish ∈ ops := by
  induction ops generalizing s with
  | nil => simp at h
  | cons op ops ih =>
    rw [trace, List.mem_append, Option.mem_toList] at h
    rcases h with h | h
    · cases op <;> simp [event?] at h ⊢
    · exact List.mem_cons_of_mem _ (ih h)

/-! ## Newest completions -/

/-- The newest of the sends with a number above `n`; of one send, the first completion. -/
def newest (n : Nat) (ds : List Completed) : Option Completed :=
  (ds.filter (n < ·.seq)).argmax (·.seq)

theorem lt_seq_of_newest {n : Nat} {ds : List Completed} {d : Completed}
    (h : newest n ds = some d) : n < d.seq := by
  have hmem := List.argmax_mem (Option.mem_def.2 h)
  simpa using (List.mem_filter.1 hmem).2

theorem newest_concat (n : Nat) (ds : List Completed) (d : Completed) :
    newest n (ds ++ [d]) =
      if ((newest n ds).map (·.seq)).getD n < d.seq then some d else newest n ds := by
  unfold newest
  rw [List.filter_append]
  by_cases hd : n < d.seq
  · rw [List.filter_singleton, decide_eq_true hd, cond_true, List.argmax_concat]
    cases h : (ds.filter (n < ·.seq)).argmax (·.seq) with
    | none => simp [hd]
    | some c => simp
  · rw [List.filter_singleton, decide_eq_false hd, cond_false, List.append_nil]
    cases h : newest n ds with
    | none => unfold newest at h; simp [h, hd]
    | some c =>
      have := lt_seq_of_newest h
      unfold newest at h
      rw [h, if_neg]
      simp only [Option.map_some, Option.getD_some]
      omega

/-- Completions of different sends have the same newest one in any order. -/
theorem newest_perm (n : Nat) {ds ds' : List Completed} (hp : ds.Perm ds')
    (hn : (ds.map (·.seq)).Nodup) : newest n ds = newest n ds' := by
  have hp' : (ds.filter (n < ·.seq)).Perm (ds'.filter (n < ·.seq)) := hp.filter _
  cases h : newest n ds with
  | none =>
    have hnil := List.argmax_eq_none.1 h
    rw [hnil] at hp'
    unfold newest
    rw [hp'.symm.eq_nil, List.argmax_nil]
  | some c =>
    cases h' : newest n ds' with
    | none =>
      have hnil := List.argmax_eq_none.1 h'
      rw [hnil] at hp'
      unfold newest at h
      rw [hp'.eq_nil] at h
      simp at h
    | some c' =>
      have hc := List.argmax_mem (Option.mem_def.2 h)
      have hc' := hp'.mem_iff.2 (List.argmax_mem (Option.mem_def.2 h'))
      have hle := List.le_of_mem_argmax hc' (Option.mem_def.2 h)
      have hge := List.le_of_mem_argmax (hp'.mem_iff.1 hc) (Option.mem_def.2 h')
      have hseq : c.seq = c'.seq := Nat.le_antisymm hge hle
      rw [List.inj_on_of_nodup_map hn (List.mem_of_mem_filter hc) (List.mem_of_mem_filter hc') hseq]

/-- **Without restored entries**, a send on show gives way to the newest completion above it. -/
theorem foldl_after (v : Pane) (evs : List Event) (hr : ∀ e, .restored e ∉ evs)
    (hf : .finished ∉ evs) :
    (evs.foldl Pane.after v).displayed =
        ((newest v.displayed (completedIn evs)).map (·.seq)).getD v.displayed ∧
      (evs.foldl Pane.after v).response =
        ((newest v.displayed (completedIn evs)).map (·.outcome.response)).or v.response := by
  induction evs using List.reverseRecOn with
  | nil => exact ⟨rfl, rfl⟩
  | append_singleton evs ev ih =>
    simp only [List.mem_append, List.mem_singleton, not_or] at hr hf
    obtain ⟨hdisp, hresp⟩ := ih (fun e => (hr e).1) hf.1
    rw [List.foldl_append, List.foldl_cons, List.foldl_nil, completedIn_append]
    generalize evs.foldl Pane.after v = w at hdisp hresp
    cases ev with
    | issued p =>
      rw [show completedIn [.issued p] = [] from rfl, List.append_nil]
      exact ⟨hdisp, hresp⟩
    | cleared =>
      rw [show completedIn [.cleared] = [] from rfl, List.append_nil]
      exact ⟨hdisp, hresp⟩
    | restored e => exact absurd rfl (hr e).2
    | finished => exact absurd rfl hf.2
    | completed d =>
      show (w.after (.completed d)).displayed =
          ((newest v.displayed (completedIn evs ++ [d])).map (·.seq)).getD v.displayed ∧
        (w.after (.completed d)).response =
          ((newest v.displayed (completedIn evs ++ [d])).map (·.outcome.response)).or v.response
      rw [newest_concat, ← hdisp]
      by_cases h : w.displayed < d.seq
      · simp [Pane.after, h]
      · simpa [Pane.after, h] using ⟨hdisp, hresp⟩

/-! ## Answers to issued sends -/

/-- Every completed send has one of the given numbers or was issued before in the trace. -/
def Answered : List Nat → List Event → Prop
  | _, [] => True
  | seqs, .issued p :: evs => Answered (seqs ++ [p.seq]) evs
  | seqs, .completed d :: evs => d.seq ∈ seqs ∧ Answered seqs evs
  | seqs, .restored _ :: evs | seqs, .cleared :: evs | seqs, .finished :: evs => Answered seqs evs

instance decidableAnswered : (seqs : List Nat) → (evs : List Event) → Decidable (Answered seqs evs)
  | _, [] => isTrue trivial
  | seqs, .issued p :: evs => decidableAnswered (seqs ++ [p.seq]) evs
  | seqs, .completed d :: evs =>
    have := decidableAnswered seqs evs
    inferInstanceAs (Decidable (d.seq ∈ seqs ∧ Answered seqs evs))
  | seqs, .restored _ :: evs | seqs, .cleared :: evs | seqs, .finished :: evs =>
    decidableAnswered seqs evs

theorem answered_append {seqs : List Nat} {xs ys : List Event} :
    Answered seqs (xs ++ ys) ↔
      Answered seqs xs ∧ Answered (seqs ++ (issuedIn xs).map (·.seq)) ys := by
  induction xs generalizing seqs with
  | nil => simp [Answered, issuedIn]
  | cons ev xs ih =>
    cases ev with
    | issued p =>
      rw [List.cons_append, Answered, Answered, ih, List.append_assoc]
      rfl
    | completed d =>
      rw [List.cons_append, Answered, Answered, ih, and_assoc]
      rfl
    | restored e | cleared | finished =>
      rw [List.cons_append, Answered, Answered, ih]
      rfl

theorem Answered.mem {seqs : List Nat} {evs : List Event} (h : Answered seqs evs) :
    ∀ d ∈ completedIn evs, d.seq ∈ seqs ∨ d.seq ∈ (issuedIn evs).map (·.seq) := by
  induction evs generalizing seqs with
  | nil => intro d hd; simp [completedIn] at hd
  | cons ev evs ih =>
    intro d hd
    cases ev with
    | issued p =>
      have := ih h d hd
      rw [List.mem_append, List.mem_singleton] at this
      rcases this with (h | h) | h
      · exact .inl h
      · exact .inr (List.mem_cons.2 (.inl h))
      · exact .inr (List.mem_cons.2 (.inr h))
    | completed d' =>
      rcases List.mem_cons.1 hd with rfl | hd
      · exact .inl h.1
      · exact ih h.2 d hd
    | restored e | cleared | finished => exact ih h d hd

/-- No number is on show that was not given out. -/
theorem displayed_le_run {s : Session} {ops : List Op} {seqs : List Nat}
    (hs : ∀ n ∈ seqs, n ≤ s.lastIssued) (hd : s.displayed ≤ s.lastIssued)
    (ha : Answered seqs (s.trace ops)) : (s.run ops).displayed ≤ (s.run ops).lastIssued := by
  induction ops generalizing s seqs with
  | nil => exact hd
  | cons op ops ih =>
    rw [trace] at ha
    rw [run_cons]
    have h := effect_step s op
    generalize s.event? op = ev at h ha
    generalize s.step op = s' at h ha
    cases h with
    | issued h =>
      have hseq := (beginSend_eq_ok_iff.1 h).2.1
      refine ih (fun n hn => ?_) (Nat.le_succ_of_le hd) ha
      rcases List.mem_append.1 hn with hn | hn
      · exact Nat.le_succ_of_le (hs n hn)
      · rw [List.mem_singleton.1 hn, hseq]
    | completed d =>
      obtain ⟨hseq, ha⟩ := ha
      rw [completeSend_eq] at ha ⊢
      refine ih (s := { s with history := _, displayed := _, response := _ }) hs ?_ ha
      by_cases h : s.displayed < d.seq
      · simpa [h] using hs d.seq hseq
      · simpa [h] using hd
    | restored _ =>
      obtain ⟨-, -, hlast, hdisp, -, -⟩ := restore_frame s ‹_›
      exact ih (by rwa [hlast]) (by rw [hlast, hdisp]) ha
    | cleared | finished => exact ih hs hd ha
    | quiet h => exact ih (by rwa [h.lastIssued]) (by rwa [h.lastIssued, h.displayed]) ha

/-! ## The response on show -/

/-- Of the sends that a part of a trace issues and completes, the one with the greatest number, by
its first completion. -/
def latest (evs : List Event) : Option Completed :=
  ((completedIn evs).filter fun d => d.seq ∈ (issuedIn evs).map (·.seq)).argmax (·.seq)

theorem latest_eq_newest {n : Nat} {seqs : List Nat} {evs : List Event}
    (hn : (issuedIn evs).map (·.seq) = List.range' (n + 1) (issuedIn evs).length)
    (hs : ∀ m ∈ seqs, m ≤ n) (ha : Answered seqs evs) : latest evs = newest n (completedIn evs) := by
  unfold latest newest
  congr 1
  refine List.filter_congr fun d hd => ?_
  rw [decide_eq_decide]
  constructor
  · intro h
    rw [hn, List.mem_range'_1] at h
    omega
  · intro h
    rcases ha.mem d hd with hd | hd
    · have := hs d.seq hd
      omega
    · exact hd

theorem lastIssued_foldl_after (v : Pane) (evs : List Event) :
    (evs.foldl Pane.after v).lastIssued = v.lastIssued + (issuedIn evs).length := by
  induction evs generalizing v with
  | nil => rfl
  | cons ev evs ih =>
    rw [List.foldl_cons, ih]
    cases ev with
    | issued p => simp [Pane.after, issuedIn, Event.issued?]; omega
    | completed d =>
      show (v.after (.completed d)).lastIssued + (issuedIn evs).length = _
      by_cases h : v.displayed < d.seq <;> simp [Pane.after, h] <;> rfl
    | restored e | cleared | finished => rfl

/-- The response after a trace from a new session in which nothing was restored. -/
theorem response_of_not_restored {evs : List Event}
    (hn : (issuedIn evs).map (·.seq) = List.range' 1 (issuedIn evs).length)
    (ha : Answered [] evs) (hr : ∀ e, .restored e ∉ evs) (hf : .finished ∉ evs) :
    (evs.foldl Pane.after ⟨0, 0, none⟩).response = (latest evs).map (·.outcome.response) := by
  rw [(foldl_after _ evs hr hf).2, latest_eq_newest (n := 0) hn (by simp) ha, Option.or_none]

/-- The response after a trace from a new session, by what follows the last restored entry. -/
theorem response_of_restored {before after : List Event} {e : HistoryEntry}
    (hn : (issuedIn (before ++ .restored e :: after)).map (·.seq) =
      List.range' 1 (issuedIn (before ++ .restored e :: after)).length)
    (ha : Answered [] (before ++ .restored e :: after)) (hr : ∀ e', .restored e' ∉ after)
    (hf : .finished ∉ after) :
    ((before ++ .restored e :: after).foldl Pane.after ⟨0, 0, none⟩).response =
      ((latest after).map (·.outcome.response)).or (some e.response) := by
  rw [issuedIn_append, show issuedIn (.restored e :: after) = issuedIn after from rfl,
    List.map_append, List.length_append, ← List.range'_append_1] at hn
  obtain ⟨hbefore, hafter⟩ := List.append_inj hn (by simp)
  rw [Nat.add_comm 1] at hafter
  have ha' : Answered ((issuedIn before).map (·.seq)) after := (answered_append.1 ha).2
  have hle : ∀ m ∈ (issuedIn before).map (·.seq), m ≤ (issuedIn before).length := by
    intro m hm
    rw [hbefore, List.mem_range'_1] at hm
    omega
  have hlast := lastIssued_foldl_after ⟨0, 0, none⟩ before
  rw [List.foldl_append, List.foldl_cons, (foldl_after _ after hr hf).2]
  simp only [Pane.after, hlast, Nat.zero_add]
  rw [latest_eq_newest hafter hle ha']

/-- **The latest send wins**, for any order of completions. In a run of a new session without an end
in which only issued sends are completed, the number on show was given out, and the response on show
is that of the latest send since the last restored entry, else of that entry, else there is none.
Two runs that complete the same sends, each once and in any two orders, and that restore no entry,
lead from the same session to the same response on show. -/
theorem response_latest_wins :
    (∀ (baseUrl hint : String) (rule : ImageRule) (s : Session) (ops : List Op),
      s = start baseUrl hint rule → .finish ∉ ops → Answered [] (s.trace ops) →
        (s.run ops).displayed ≤ (s.run ops).lastIssued ∧
        ((∀ e, .restored e ∉ s.trace ops) →
          (s.run ops).response = (latest (s.trace ops)).map (·.outcome.response)) ∧
        (∀ before e after, s.trace ops = before ++ .restored e :: after →
          (∀ e', .restored e' ∉ after) →
          (s.run ops).response =
            ((latest after).map (·.outcome.response)).or (some e.response))) ∧
    (∀ (s : Session) (xs ys : List Op), .finish ∉ xs → .finish ∉ ys →
      (∀ e, .restored e ∉ s.trace xs) → (∀ e, .restored e ∉ s.trace ys) →
      (completedIn (s.trace xs)).Perm (completedIn (s.trace ys)) →
      ((completedIn (s.trace xs)).map (·.seq)).Nodup →
        (s.run xs).response = (s.run ys).response ∧
        (s.run xs).displayed = (s.run ys).displayed) := by
  constructor
  · intro baseUrl hint rule s ops hs hf ha
    have hpane : s.pane = ⟨0, 0, none⟩ := by rw [hs]; rfl
    have hlast : s.lastIssued = 0 := congrArg Pane.lastIssued hpane
    have hdisp : s.displayed = 0 := congrArg Pane.displayed hpane
    have hseq := seq_issuedIn_trace s ops
    have hresp : (s.run ops).pane.response = _ := congrArg Pane.response (pane_run s ops)
    rw [hlast] at hseq
    rw [hpane] at hresp
    have hfin : .finished ∉ s.trace ops := mt finish_mem_of_finished_mem hf
    refine ⟨displayed_le_run (by simp) (by rw [hdisp, hlast]) ha, fun hr => ?_, fun before e after htr hr => ?_⟩
    · exact hresp.trans (response_of_not_restored hseq ha hr hfin)
    · rw [htr] at hseq ha hresp hfin
      exact hresp.trans (response_of_restored hseq ha hr fun h => hfin (by simp [h]))
  · intro s xs ys hfx hfy hrx hry hp hn
    have hx := foldl_after s.pane _ hrx (mt finish_mem_of_finished_mem hfx)
    have hy := foldl_after s.pane _ hry (mt finish_mem_of_finished_mem hfy)
    rw [← pane_run, newest_perm _ hp hn] at hx
    rw [← pane_run] at hy
    exact ⟨hx.2.trans hy.2.symm, hx.1.trans hy.1.symm⟩

/-- A health check that was answered with a text. -/
def healthy (seq : Nat) (text : String) : Completed where
  seq := seq
  outcome :=
    let sent := ⟨"Health Check", .get, "/health", "", ""⟩
    let response := Response.ofExchange 200 "OK" text 5
    ⟨.ofResponse (toString seq) sent response ⟨2026, 1, 2, 3, 4, 5, 6⟩, response⟩

/-- Two sends that overlap, completed in a given order. -/
def overlapping (a b : Completed) : List Op := [.issue, .issue, .complete a, .complete b]

/-- The second send overtakes the first, or does not; a third one wins over a replay, to which a
repeated completion of the first is stale. -/
theorem response_overtaking :
    ((start "http://h" "m" .heuristic).run
      (overlapping (healthy 2 "b") (healthy 1 "a") ++
        [.replayNth 0, .issue, .complete (healthy 1 "a"), .complete (healthy 3 "c")])).response =
      some (healthy 3 "c").outcome.response ∧
    ((start "http://h" "m" .heuristic).run (overlapping (healthy 2 "b") (healthy 1 "a"))).response =
      ((start "http://h" "m" .heuristic).run (overlapping (healthy 1 "a") (healthy 2 "b"))).response := by
  constructor
  · obtain ⟨-, -, h⟩ := response_latest_wins.1 "http://h" "m" .heuristic _
      (overlapping (healthy 2 "b") (healthy 1 "a") ++
        [.replayNth 0, .issue, .complete (healthy 1 "a"), .complete (healthy 3 "c")])
      rfl (by simp [overlapping]) (by decide)
    exact h [.issued _, .issued _, .completed (healthy 2 "b"), .completed (healthy 1 "a")] _
      [.issued _, .completed (healthy 1 "a"), .completed (healthy 3 "c")] rfl (by simp)
  · refine (response_latest_wins.2 _ _ _ (by simp [overlapping]) (by simp [overlapping])
      ?_ ?_ ?_ (by decide)).1
    · intro e
      show Event.restored e ∉ [.issued _, .issued _, .completed _, .completed _]
      simp
    · intro e
      show Event.restored e ∉ [.issued _, .issued _, .completed _, .completed _]
      simp
    · exact .swap _ _ _

end ApiConsole.Session
