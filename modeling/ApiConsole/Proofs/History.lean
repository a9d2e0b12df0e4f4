import ApiConsole.History
import Mathlib.Data.List.DropRight
import Mathlib.Data.List.Nodup

/-!
# The history as a bounded log

A run of a history is a list of additions and clearances. Behind it stands a log without a bound, to
which every addition puts its entry in front and which a clearance empties; it holds the entries that
were added since the last clearance (`foldl_record`). A history drops old entries each time that one
is added, and never needs them again: after any run its entries are the newest ones of the log
(`entries_run`).
-/
namespace ApiConsole.History

/-- A change of a history. -/
inductive Op where
  | add (e : HistoryEntry)
  | clear
  deriving DecidableEq

def Op.entry? : Op → Option HistoryEntry
  | .add e => some e
  | .clear => none

def step (h : History) : Op → History
  | .add e => h.add e
  | .clear => h.clear

def run (h : History) (ops : List Op) : History := ops.foldl step h

@[simp] theorem run_nil (h : History) : h.run [] = h := rfl

@[simp] theorem run_cons (h : History) (op : Op) (ops : List Op) :
    h.run (op :: ops) = (h.step op).run ops := rfl

theorem run_append (h : History) (xs ys : List Op) : h.run (xs ++ ys) = (h.run xs).run ys :=
  List.foldl_append

@[simp] theorem capacity_step (h : History) (op : Op) : (h.step op).capacity = h.capacity := by
  cases op <;> rfl

@[simp] theorem capacity_run (h : History) (ops : List Op) : (h.run ops).capacity = h.capacity := by
  induction ops generalizing h with
  | nil => rfl
  | cons op ops ih => rw [run_cons, ih, capacity_step]

/-! ## The log -/

/-- What a change does to the log, the newest entry of which stands first. -/
def record (log : List HistoryEntry) : Op → List HistoryEntry
  | .add e => e :: log
  | .clear => []

/-- The entries added behind the last clearance, in the order in which they were added. -/
def addedSinceClear (ops : List Op) : List HistoryEntry :=
  (ops.rtakeWhile (· ≠ .clear)).filterMap Op.entry?

theorem addedSinceClear_concat_add (ops : List Op) (e : HistoryEntry) :
    addedSinceClear (ops ++ [.add e]) = addedSinceClear ops ++ [e] := by
  unfold addedSinceClear
  rw [List.rtakeWhile_concat_pos _ _ _ (by simp), List.filterMap_append]
  rfl

theorem addedSinceClear_concat_clear (ops : List Op) : addedSinceClear (ops ++ [.clear]) = [] := by
  unfold addedSinceClear
  rw [List.rtakeWhile_concat_neg _ _ _ (by simp)]
  rfl

/-- The log holds what was added since the last clearance, in reverse. -/
theorem foldl_record (ops : List Op) : ops.foldl record [] = (addedSinceClear ops).reverse := by
  induction ops using List.reverseRecOn with
  | nil => rfl
  | append_singleton ops op ih =>
    rw [List.foldl_append, ih, List.foldl_cons, List.foldl_nil]
    cases op with
    | add e => rw [addedSinceClear_concat_add, List.reverse_append]; rfl
    | clear => rw [addedSinceClear_concat_clear]; rfl

/-! ## The newest entries of the log -/

/-- A history that is full drops the same entries sooner or later. -/
theorem take_cons_take {α : Type} (n : Nat) (x : α) (xs : List α) :
    (x :: xs.take n).take n = (x :: xs).take n := by
  cases n with
  | zero => rfl
  | succ n => rw [List.take_succ_cons, List.take_succ_cons, List.take_take, Nat.min_eq_left n.le_succ]

theorem entries_step {h : History} {log : List HistoryEntry} (op : Op)
    (hlog : h.entries = log.take h.capacity.toNat) :
    (h.step op).entries = (record log op).take h.capacity.toNat := by
  cases op with
  | add e => exact (congrArg (fun es => (e :: es).take h.capacity.toNat) hlog).trans (take_cons_take ..)
  | clear => exact (List.take_nil ..).symm

/-- **The entries after a run** are the newest ones of the log. -/
theorem entries_run {h : History} {log : List HistoryEntry} (ops : List Op)
    (hlog : h.entries = log.take h.capacity.toNat) :
    (h.run ops).entries = (ops.foldl record log).take h.capacity.toNat := by
  induction ops generalizing h log with
  | nil => exact hlog
  | cons op ops ih =>
    have hop := entries_step op hlog
    rw [← capacity_step h op] at hop
    rw [run_cons, ih hop, capacity_step, List.foldl_cons]

theorem entries_run_empty (capacity : UInt64) (ops : List Op) :
    ((empty capacity).run ops).entries =
      (addedSinceClear ops).reverse.take capacity.toNat := by
  have hempty : (empty capacity).entries = List.take (empty capacity).capacity.toNat [] :=
    (List.take_nil ..).symm
  rw [entries_run ops hempty, foldl_record]
  rfl

/-! ## Looking entries up -/

/-- An entry is found by its identity if no newer one has the same. -/
theorem get?_eq_some_iff {h : History} {id : String} {e : HistoryEntry} :
    h.get? id = some e ↔
      ∃ place, h.nth? place = some e ∧ e.id = id ∧
        ∀ newer < place, ∀ e', h.nth? newer = some e' → e'.id ≠ id := by
  unfold get? nth?
  rw [List.find?_eq_some_iff_getElem]
  constructor
  · rintro ⟨hid, place, hplace, rfl, hnewer⟩
    refine ⟨place, List.getElem?_eq_getElem hplace, by simpa using hid, fun newer hlt e' he' => ?_⟩
    obtain ⟨hbound, rfl⟩ := List.getElem?_eq_some_iff.1 he'
    simpa using hnewer newer hlt
  · rintro ⟨place, hplace, hid, hnewer⟩
    obtain ⟨hbound, rfl⟩ := List.getElem?_eq_some_iff.1 hplace
    refine ⟨by simpa using hid, place, hbound, rfl, fun newer hlt => ?_⟩
    simpa using hnewer newer hlt _ (List.getElem?_eq_getElem (hlt.trans hbound))

theorem get?_eq_none_iff {h : History} {id : String} :
    h.get? id = none ↔ ∀ e ∈ h.entries, e.id ≠ id := by
  unfold get?
  rw [List.find?_eq_none]
  simp

theorem nth?_eq_none_iff {h : History} {place : Nat} : h.nth? place = none ↔ h.size ≤ place :=
  List.getElem?_eq_none_iff

/-- If identities are not repeated, an entry is found by its own. -/
theorem get?_of_nth? {h : History} {place : Nat} {e : HistoryEntry}
    (hn : (h.entries.map (·.id)).Nodup) (he : h.nth? place = some e) : h.get? e.id = some e := by
  have hmem : e ∈ h.entries := List.mem_of_getElem? he
  unfold get?
  cases hfind : h.entries.find? (·.id == e.id) with
  | none =>
    have := List.find?_eq_none.1 hfind e hmem
    simp at this
  | some e' =>
    have hid : e'.id = e.id := by simpa using List.find?_some hfind
    rw [List.inj_on_of_nodup_map hn (List.mem_of_find?_eq_some hfind) hmem hid]

end ApiConsole.History
