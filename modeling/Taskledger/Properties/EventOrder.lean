import Mathlib.Data.List.Flatten
import Mathlib.Data.List.Forall2
import Taskledger.PlainJson
import Taskledger.PlainRuntime
import Taskledger.Storage.Lookup

/-!
# The order of events

The events of all files are sorted by time and id. The recent ones are taken as they stand in the
files, so the two readings differ where an event stands before one it belongs behind.
-/

namespace Taskledger

open Library

open List (Forall₂)

namespace EventLog

section EventOrder

variable [Runtime] [EventJson] {now eventsDir name line : String} {taskId : Option String}
  {n : Nat} {dir : EventsDir} {es found : List TaskEvent} {e : TaskEvent}

-- ════════════════════════════════════════════════════════════════════════
-- What the lines say
-- ════════════════════════════════════════════════════════════════════════

/-- The events of a line: none, or one. -/
def LineSays (now eventsDir name line : String) (es : List TaskEvent) : Prop :=
  (Text.isBlank line = true ∧ es = []) ∨
    (Text.isBlank line = false ∧ ∃ event, readLine now eventsDir name line = .ok event ∧
      es = event.toList)

theorem LineSays.reverse (h : LineSays now eventsDir name line es) : es.reverse = es := by
  rcases h with ⟨-, rfl⟩ | ⟨-, event, -, rfl⟩
  · rfl
  · cases event <;> rfl

/-- The events of a file, line by line. -/
def FileSays (now eventsDir : String) (file : LogFile) (es : List TaskEvent) : Prop :=
  ∃ parts, Forall₂ (LineSays now eventsDir file.name) (Text.splitlines file.text) parts ∧
    es = parts.flatten

theorem loadLines_eq_ok {lines : List String} {before all : List TaskEvent}
    (h : loadLines now eventsDir name before lines = .ok all) :
    (∃ parts, Forall₂ (LineSays now eventsDir name) lines parts ∧ all = before ++ parts.flatten) ∧
      ((before.map TaskEvent.eventId).Nodup → (all.map TaskEvent.eventId).Nodup) := by
  induction lines generalizing before with
  | nil =>
    cases h
    exact ⟨⟨[], .nil, by simp⟩, id⟩
  | cons line rest ih =>
    rw [loadLines] at h
    split at h
    · rename_i hblank
      obtain ⟨⟨parts, hparts, rfl⟩, hnodup⟩ := ih h
      exact ⟨⟨[] :: parts, .cons (.inl ⟨hblank, rfl⟩) hparts, by simp⟩, hnodup⟩
    · rename_i hsolid
      obtain ⟨event, hread, h⟩ := bind_eq_ok.1 h
      rw [Bool.not_eq_true] at hsolid
      cases event with
      | none =>
        obtain ⟨⟨parts, hparts, rfl⟩, hnodup⟩ := ih h
        exact ⟨⟨[] :: parts, .cons (.inr ⟨hsolid, none, hread, rfl⟩) hparts, by simp⟩, hnodup⟩
      | some event =>
        obtain ⟨_, hnew, h⟩ := bind_eq_ok.1 h
        rw [raiseIf_eq_ok] at hnew
        obtain ⟨⟨parts, hparts, rfl⟩, hnodup⟩ := ih h
        refine ⟨⟨[event] :: parts, .cons (.inr ⟨hsolid, some event, hread, rfl⟩) hparts,
          by simp⟩, fun hbefore => hnodup ?_⟩
        rw [List.map_append, List.nodup_append]
        refine ⟨hbefore, List.nodup_singleton _, fun a ha b hb hab => hnew ?_⟩
        rw [List.map_singleton, List.mem_singleton] at hb
        rw [← hb, ← hab]
        exact ha

theorem loadFiles_eq_ok {files : List LogFile} {before all : List TaskEvent}
    (h : loadFiles now eventsDir before files = .ok all) :
    (∃ parts, Forall₂ (FileSays now eventsDir) files parts ∧ all = before ++ parts.flatten) ∧
      ((before.map TaskEvent.eventId).Nodup → (all.map TaskEvent.eventId).Nodup) := by
  induction files generalizing before with
  | nil =>
    cases h
    exact ⟨⟨[], .nil, by simp⟩, id⟩
  | cons file rest ih =>
    obtain ⟨first, hfirst, h⟩ := bind_eq_ok.1 h
    obtain ⟨⟨lines, hlines, rfl⟩, hnodup⟩ := loadLines_eq_ok hfirst
    obtain ⟨⟨parts, hparts, rfl⟩, hnodup'⟩ := ih h
    exact ⟨⟨lines.flatten :: parts, .cons ⟨lines, hlines, rfl⟩ hparts, by simp⟩,
      fun hbefore => hnodup' (hnodup hbefore)⟩

/-- The events that stand in the files, with their ids all different. -/
theorem loggedEvents_eq_ok {logged : List TaskEvent}
    (h : loggedEvents now eventsDir dir = .ok logged) :
    (∃ parts, Forall₂ (FileSays now eventsDir) (sortedBy LogFile.name dir.files) parts ∧
      logged = parts.flatten) ∧ (logged.map TaskEvent.eventId).Nodup := by
  obtain ⟨hparts, hnodup⟩ := loadFiles_eq_ok h
  exact ⟨hparts, hnodup List.nodup_nil⟩

-- ════════════════════════════════════════════════════════════════════════
-- The recent events
-- ════════════════════════════════════════════════════════════════════════

/-- The event is of the task that is asked for, if one is. -/
def isOf (taskId : Option String) (e : TaskEvent) : Bool := !taskId.any (· ≠ e.taskId)

omit [Runtime] [EventJson] in
theorem filter_other (h : taskId.any (· ≠ e.taskId) = true) : [e].filter (isOf taskId) = [] := by
  rw [List.filter_cons_of_neg (by rw [isOf, h]; exact Bool.false_ne_true), List.filter_nil]

omit [Runtime] [EventJson] in
theorem filter_own (h : ¬ taskId.any (· ≠ e.taskId) = true) : [e].filter (isOf taskId) = [e] := by
  rw [List.filter_cons_of_pos (by rw [isOf, Bool.eq_false_iff.2 h]; rfl), List.filter_nil]

/-- The events of a line are the same from behind. -/
theorem reverse_parts {lines : List String} {parts : List (List TaskEvent)}
    (h : Forall₂ (LineSays now eventsDir name) lines parts) : parts.map List.reverse = parts := by
  induction h with
  | nil => rfl
  | cons hline _ ih => rw [List.map_cons, hline.reverse, ih]

/-- The lines give the first events that are asked for, as many as are missing. -/
theorem recentLines_eq_ok {lines : List String} {parts : List (List TaskEvent)}
    (h : Forall₂ (LineSays now eventsDir name) lines parts) (hfew : found.length < n) :
    recentLines now eventsDir taskId n name found lines =
      .ok ((found ++ parts.flatten.filter (isOf taskId)).take n) := by
  induction h generalizing found with
  | nil => simp [recentLines, List.take_of_length_le (Nat.le_of_lt hfew)]
  | @cons line part rest parts hline _ ih =>
    rw [recentLines, List.flatten_cons, List.filter_append]
    rcases hline with ⟨hblank, rfl⟩ | ⟨hsolid, event, hread, rfl⟩
    · rw [if_pos hblank, ih hfew]
      rfl
    · rw [if_neg (by simp [hsolid]), hread]
      cases event with
      | none => exact ih hfew
      | some event =>
        by_cases hother : taskId.any (· ≠ event.taskId)
        · show (if taskId.any (· ≠ event.taskId) = true then _ else _) = _
          rw [if_pos hother, ih hfew, Option.toList_some, filter_other hother, List.nil_append]
        · show (if taskId.any (· ≠ event.taskId) = true then _ else _) = _
          rw [if_neg hother, Option.toList_some, filter_own hother, ← List.append_assoc]
          have hlength : (found ++ [event]).length = found.length + 1 := by simp
          split
          · rename_i hfull
            rw [List.take_append_of_le_length hfull, List.take_of_length_le (by omega)]
            rfl
          · rename_i hmore
            exact ih (by omega)

theorem recentFiles_eq_ok {files : List LogFile} {parts : List (List TaskEvent)}
    (h : Forall₂ (FileSays now eventsDir) files parts) (hfew : found.length < n) :
    recentFiles now eventsDir taskId n found files =
      .ok ((found ++ ((parts.map List.reverse).flatten.filter (isOf taskId))).take n) := by
  induction h generalizing found with
  | nil => simp [recentFiles, List.take_of_length_le (Nat.le_of_lt hfew)]
  | @cons file part rest parts hfile _ ih =>
    obtain ⟨lines, hlines, rfl⟩ := hfile
    have hback : recentLines now eventsDir taskId n file.name found
        (Text.splitlines file.text).reverse = _ :=
      recentLines_eq_ok (List.forall₂_reverse_iff.2 hlines) hfew
    rw [recentFiles, hback, List.map_cons, List.flatten_cons, List.filter_append,
      List.reverse_flatten, reverse_parts hlines, ← List.append_assoc]
    generalize found ++ lines.reverse.flatten.filter (isOf taskId) = all at hback ⊢
    show (if n ≤ (List.take n all).length then _ else _) = _
    rw [List.length_take]
    split
    · rename_i hfull
      rw [List.take_append_of_le_length (by omega)]
      rfl
    · rename_i hmore
      rw [List.take_of_length_le (by omega)]
      exact ih (by omega)

/-- The recent events are the last ones asked for, as they stand in the files. -/
theorem loadRecentEvents_eq {logged : List TaskEvent} {limit : Int}
    (h : loggedEvents now eventsDir dir = .ok logged) :
    loadRecentEvents now eventsDir dir taskId limit =
      .ok (lastEntries limit.toNat (logged.filter (isOf taskId))) := by
  obtain ⟨⟨parts, hparts, rfl⟩, -⟩ := loggedEvents_eq_ok h
  unfold loadRecentEvents
  split
  · rename_i hnone
    have hzero : limit.toNat = 0 := by omega
    rw [hzero, lastEntries, Nat.sub_zero, List.drop_length]
  · rename_i hsome
    have hnone : ([] : List TaskEvent).length < limit.toNat := by
      rw [List.length_nil]
      omega
    have hfiles : recentFiles now eventsDir taskId limit.toNat []
        (sortedBy LogFile.name dir.files).reverse = _ :=
      recentFiles_eq_ok (List.forall₂_reverse_iff.2 hparts) hnone
    rw [hfiles, List.nil_append, List.map_reverse, ← List.reverse_flatten, List.filter_reverse,
      ← reverse_take_reverse]
    rfl

-- ════════════════════════════════════════════════════════════════════════
-- Recent and sorted events
-- ════════════════════════════════════════════════════════════════════════

instance : Std.Total fun a b : TaskEvent => key a ≤ key b := ⟨fun a b => le_total (key a) (key b)⟩

instance : IsTrans TaskEvent fun a b => key a ≤ key b := ⟨fun _ _ _ => le_trans⟩

omit [Runtime] [EventJson] in
/-- Events with different ids have different keys. -/
theorem eq_of_key {logged : List TaskEvent} (hids : (logged.map TaskEvent.eventId).Nodup) :
    ∀ a ∈ logged, ∀ b ∈ logged, key a ≤ key b → key b ≤ key a → a = b := by
  intro a ha b hb hab hba
  have hkey : (a.ts, a.eventId) = (b.ts, b.eventId) := toLex.injective (le_antisymm hab hba)
  exact List.inj_on_of_nodup_map hids ha hb (Prod.mk.inj hkey).2

omit [Runtime] [EventJson] in
theorem isOf_some (id : String) : isOf (some id) = fun e => decide (e.taskId = id) := by
  funext e
  by_cases h : e.taskId = id
  · simp [isOf, h]
  · simp [isOf, h, Ne.symm h]

/-- The recent events of a task are its last sorted events when those are settled. -/
theorem recent_eq_sorted_iff {logged : List TaskEvent} {limit : Int} (id : String)
    (h : loggedEvents now eventsDir dir = .ok logged) :
    loadRecentEvents now eventsDir dir (some id) limit =
        .ok (lastEntries limit.toNat
          ((logged.insertionSort fun a b => key a ≤ key b).filter fun e => e.taskId = id)) ↔
      SettledTail (fun a b => key a ≤ key b) limit.toNat (logged.filter fun e => e.taskId = id) := by
  obtain ⟨-, hids⟩ := loggedEvents_eq_ok h
  have hanti := eq_of_key hids
  rw [loadRecentEvents_eq h, isOf_some, filter_insertionSort hanti]
  have htail := lastEntries_insertionSort_iff (n := limit.toNat)
    (l := logged.filter fun e => e.taskId = id) fun a ha b hb =>
      hanti a (List.mem_of_mem_filter ha) b (List.mem_of_mem_filter hb)
  constructor
  · intro heq
    exact htail.1 (Except.ok.inj heq)
  · intro hsettled
    exact congrArg Except.ok (htail.2 hsettled)

-- ════════════════════════════════════════════════════════════════════════
-- Appended events
-- ════════════════════════════════════════════════════════════════════════

/-- Every file of the log ends with a whole line. -/
def WholeLog (dir : EventsDir) : Prop := ∀ file ∈ dir.files, Text.WholeLines file.text

omit [Runtime] [EventJson] in
theorem textOf_of_mem {file : LogFile} (h : file ∈ dir.files) : textOf dir file.name = file.text := by
  rw [textOf, Directory.lookup_of_mem h]
  rfl

omit [Runtime] [EventJson] in
theorem wholeLines_textOf (h : WholeLog dir) : Text.WholeLines (textOf dir name) := by
  rw [textOf]
  cases hl : dir.lookup name with
  | none => exact .inl rfl
  | some file => exact h file (Directory.mem_of_lookup hl)

omit [Runtime] in
theorem textOf_appendEvent : textOf (appendEvent dir e) name =
    if eventLogPath e.ts = name then textOf dir name ++ EventJson.dumps e.toDict ++ "\n"
    else textOf dir name := by
  rw [textOf, appendEvent, Directory.lookup_save]
  dsimp only
  split
  · rename_i heq
    rw [heq]
    rfl
  · rfl

omit [Runtime] in
theorem wholeLog_appendEvent (h : WholeLog dir) : WholeLog (appendEvent dir e) := by
  intro file hfile
  rw [appendEvent, Directory.mem_files_save] at hfile
  rcases hfile with rfl | ⟨hfile, -⟩
  · exact Text.wholeLines_append
  · exact h file hfile

omit [Runtime] in
/-- The lines of a file after events were appended. -/
theorem splitlines_appended {events : List TaskEvent} (h : WholeLog dir) :
    Text.splitlines (textOf (events.foldl appendEvent dir) name) =
      Text.splitlines (textOf dir name) ++
        (events.filter fun e => eventLogPath e.ts = name).map fun e => EventJson.dumps e.toDict := by
  induction events generalizing dir with
  | nil => simp
  | cons e rest ih =>
    rw [List.foldl_cons, ih (wholeLog_appendEvent h), textOf_appendEvent]
    by_cases heq : eventLogPath e.ts = name
    · rw [if_pos heq, Text.splitlines_append (wholeLines_textOf h) (EventJson.dumps_line _),
        List.filter_cons_of_pos (by simpa using heq)]
      simp
    · rw [if_neg heq, List.filter_cons_of_neg (by simpa using heq)]

omit [Runtime] in
/-- Appended events have a file. -/
theorem mem_names_appended {events : List TaskEvent}
    (h : e ∈ events ∨ eventLogPath e.ts ∈ dir.files.map LogFile.name) :
    eventLogPath e.ts ∈ (events.foldl appendEvent dir).files.map LogFile.name := by
  induction events generalizing dir with
  | nil => exact h.resolve_left List.not_mem_nil
  | cons first rest ih =>
    refine ih ?_
    rw [or_iff_not_imp_left]
    intro hrest
    rcases h with h | h
    · obtain rfl : e = first := (List.mem_cons.1 h).resolve_right hrest
      refine List.mem_map.2 ⟨_, Directory.mem_files_save.2 (.inl rfl), rfl⟩
    · obtain ⟨file, hfile, hname⟩ := List.mem_map.1 h
      by_cases hsame : file.name = eventLogPath first.ts
      · refine List.mem_map.2 ⟨_, Directory.mem_files_save.2 (.inl rfl), ?_⟩
        exact hsame.symm.trans hname
      · exact List.mem_map.2 ⟨file, Directory.mem_files_save.2 (.inr ⟨hfile, hsame⟩), hname⟩

omit [Runtime] [EventJson] in
/-- Later times have later files. -/
theorem eventLogPath_le {ts ts' : String} (h : ts ≤ ts') (hts : 10 ≤ ts.length)
    (hts' : 10 ≤ ts'.length) : eventLogPath ts ≤ eventLogPath ts' := by
  have htake (n : Nat) (xs ys suffix : List Char) (hxs : n ≤ xs.length) (hys : n ≤ ys.length)
      (hle : xs ≤ ys) : xs.take n ++ suffix ≤ ys.take n ++ suffix := by
    induction n generalizing xs ys with
    | zero => exact le_refl _
    | succ n ih =>
      cases xs with
      | nil => cases hxs
      | cons x xs =>
        cases ys with
        | nil => cases hys
        | cons y ys =>
          rw [← not_lt] at hle ⊢
          rw [List.take_succ_cons, List.take_succ_cons, List.cons_append, List.cons_append]
          intro hlt
          rcases List.cons_lt_cons_iff.1 hlt with hlt | ⟨heq, hlt⟩
          · exact hle (List.cons_lt_cons_iff.2 (.inl hlt))
          · have hrest : xs ≤ ys := by
              rw [← not_lt]
              exact fun hlt => hle (List.cons_lt_cons_iff.2 (.inr ⟨heq, hlt⟩))
            have hshort := ih xs ys (Nat.le_of_succ_le_succ hxs) (Nat.le_of_succ_le_succ hys) hrest
            exact not_lt.2 hshort hlt
  rw [String.le_iff_toList_le] at h ⊢
  simp only [eventLogPath, String.toList_append, String.toList_ofList]
  rw [← String.length_toList] at hts hts'
  exact htake 10 _ _ _ hts hts' h

omit [Runtime] [EventJson] in
theorem stringValue_of_get {data : Dict} {field s value : String}
    (h : stringValue data field = .ok value) (hget : Dict.get data field = .str s) : value = s := by
  unfold stringValue at h
  rw [hget] at h
  obtain ⟨_, -, h⟩ := bind_eq_ok.1 h
  exact (pure_eq_ok.1 h).symm

/-- The line of an appended event gives an event of the same time and id. -/
theorem lineSays_dumps (h : LineSays now eventsDir name (EventJson.dumps e.toDict) es) :
    es.map key = [key e] := by
  rcases h with ⟨hblank, -⟩ | ⟨-, event, hread, rfl⟩
  · rw [EventJson.dumps_ne_blank] at hblank
    cases hblank
  · obtain ⟨data, hloads, hget⟩ := EventJson.loads_dumps e.toDict
    rw [readLine, hloads] at hread
    change some <$> TaskEvent.fromDict now data = .ok event at hread
    obtain ⟨event, hevent, rfl⟩ := map_eq_ok.1 hread
    obtain ⟨_, -, hread⟩ := bind_eq_ok.1 hevent
    obtain ⟨eventId, hid, hread⟩ := bind_eq_ok.1 hread
    obtain ⟨ts, hts, hread⟩ := bind_eq_ok.1 hread
    obtain ⟨_, -, hread⟩ := bind_eq_ok.1 hread
    obtain ⟨_, -, hread⟩ := bind_eq_ok.1 hread
    obtain ⟨_, -, hread⟩ := bind_eq_ok.1 hread
    obtain ⟨_, -, hread⟩ := bind_eq_ok.1 hread
    cases pure_eq_ok.1 hread
    have hid' : eventId = e.eventId := stringValue_of_get hid (hget _ _ rfl)
    have hts' : ts = e.ts := stringValue_of_get hts (hget _ _ rfl)
    rw [hid', hts']
    rfl

/-- The file of appended events lists them. -/
theorem fileSays_appended {events : List TaskEvent} {file : LogFile} (hdir : WholeLog dir)
    (hfile : file ∈ (events.foldl appendEvent dir).files) (h : FileSays now eventsDir file es) :
    ((events.filter fun e => eventLogPath e.ts = file.name).map key).Sublist (es.map key) := by
  obtain ⟨parts, hparts, rfl⟩ := h
  rw [← textOf_of_mem hfile, splitlines_appended hdir] at hparts
  have hlast := List.forall₂_drop (Text.splitlines (textOf dir file.name)).length hparts
  rw [List.drop_left] at hlast
  have hstates : (events.filter fun e => eventLogPath e.ts = file.name).map key =
      (parts.drop (Text.splitlines (textOf dir file.name)).length).flatten.map key := by
    generalize events.filter (fun e => eventLogPath e.ts = file.name) = own at hlast
    generalize parts.drop _ = lasts at hlast
    clear hparts
    induction own generalizing lasts with
    | nil =>
      cases hlast
      rfl
    | cons e rest ih =>
      obtain ⟨part, others, hline, hothers, rfl⟩ := List.forall₂_cons_left_iff.1 hlast
      rw [List.map_cons, ih _ hothers, List.flatten_cons, List.map_append, lineSays_dumps hline]
      rfl
  rw [hstates]
  exact ((List.drop_sublist _ parts).flatten).map key

omit [Runtime] [EventJson] in
/-- The files of a log in the order of their names. -/
theorem names_sorted : ((sortedBy LogFile.name dir.files).map LogFile.name).Pairwise (· < ·) :=
  ascending_sortedBy dir.nodup

/-- The events of one process among those that were appended. -/
def ownEvents (steps : List (Bool × TaskEvent)) : List TaskEvent :=
  (steps.filter Prod.fst).map Prod.snd

/-- The log after events were appended. -/
def appended (dir : EventsDir) (steps : List (Bool × TaskEvent)) : EventsDir :=
  (steps.map Prod.snd).foldl appendEvent dir

/-- Events that were appended in the order of their times stand in that order in the files. -/
theorem sublist_logged {steps : List (Bool × TaskEvent)} {logged : List TaskEvent}
    (hdir : WholeLog dir) (hlong : ∀ e ∈ ownEvents steps, 10 ≤ e.ts.length)
    (hts : (ownEvents steps).Pairwise fun a b => a.ts ≤ b.ts)
    (h : loggedEvents now eventsDir (appended dir steps) = .ok logged) :
    ((ownEvents steps).map key).Sublist (logged.map key) := by
  obtain ⟨⟨parts, hparts, rfl⟩, -⟩ := loggedEvents_eq_ok h
  have hown : (ownEvents steps).Sublist (steps.map Prod.snd) := List.filter_sublist.map Prod.snd
  have hpaths : (ownEvents steps).Pairwise fun a b => eventLogPath a.ts ≤ eventLogPath b.ts := by
    refine hts.imp_of_mem fun {a b} ha hb hab => ?_
    exact eventLogPath_le hab (hlong a ha) (hlong b hb)
  have hmem : ∀ e ∈ ownEvents steps,
      eventLogPath e.ts ∈ (sortedBy LogFile.name (appended dir steps).files).map LogFile.name := by
    intro e he
    obtain ⟨file, hfile, hname⟩ := List.mem_map.1 (mem_names_appended (.inl (hown.mem he)))
    exact List.mem_map.2 ⟨file, mem_sortedBy.2 hfile, hname⟩
  rw [eq_flatMap_filter names_sorted hpaths hmem, List.map_flatMap, List.flatMap_map,
    List.map_flatten, List.flatMap_def]
  refine sublist_flatten (List.forall₂_map_left_iff.2 (List.forall₂_map_right_iff.2 ?_))
  have hfiles : Forall₂ (fun file part => file ∈ (appended dir steps).files ∧
      FileSays now eventsDir file part) (sortedBy LogFile.name (appended dir steps).files) parts :=
    (List.forall₂_and_left _ _).2 ⟨fun file hfile => mem_sortedBy.1 hfile, hparts⟩
  refine hfiles.imp fun file part hfile => ?_
  exact ((hown.filter _).map key).trans (fileSays_appended hdir hfile.1 hfile.2)

-- ════════════════════════════════════════════════════════════════════════
-- Both readings
-- ════════════════════════════════════════════════════════════════════════

/-- Both readings list the own events in the order in which they were appended. -/
def ListsInOrder (now eventsDir : String) (dir : EventsDir) (own : List TaskEvent) : Prop :=
  ∃ events, loadEvents now eventsDir dir = .ok events ∧
    (own.map key).Sublist (events.map key) ∧
    ∀ limit : Int, events.length ≤ limit → ∃ recent,
      loadRecentEvents now eventsDir dir none limit = .ok recent ∧
      (own.map key).Sublist (recent.map key)

/-- The recent events of the task are the last of its events. -/
def RecentAgrees (now eventsDir : String) (dir : EventsDir) (id : String) (limit : Int) : Prop :=
  ∃ events, loadEvents now eventsDir dir = .ok events ∧
    loadRecentEvents now eventsDir dir (some id) limit =
      .ok (lastEntries limit.toNat (events.filter fun e => e.taskId = id))

theorem loadEvents_eq {logged : List TaskEvent}
    (h : loggedEvents now eventsDir dir = .ok logged) :
    loadEvents now eventsDir dir = .ok (logged.insertionSort fun a b => key a ≤ key b) := by
  rw [loadEvents, h]
  rfl

theorem recentAgrees_iff {logged : List TaskEvent} {id : String} {limit : Int}
    (h : loggedEvents now eventsDir dir = .ok logged) :
    RecentAgrees now eventsDir dir id limit ↔
      SettledTail (fun a b => key a ≤ key b) limit.toNat
        (logged.filter fun e => e.taskId = id) := by
  rw [← recent_eq_sorted_iff id h]
  constructor
  · rintro ⟨events, hevents, hrecent⟩
    rw [loadEvents_eq h] at hevents
    cases hevents
    exact hrecent
  · exact fun hrecent => ⟨_, loadEvents_eq h, hrecent⟩

/-- Own events in the order of their times are listed in that order exactly when their ids are in
order wherever the times are the same. -/
theorem listsInOrder_iff {steps : List (Bool × TaskEvent)} {logged : List TaskEvent}
    (hdir : WholeLog dir) (hlong : ∀ e ∈ ownEvents steps, 10 ≤ e.ts.length)
    (hts : (ownEvents steps).Pairwise fun a b => a.ts ≤ b.ts)
    (h : loggedEvents now eventsDir (appended dir steps) = .ok logged) :
    ListsInOrder now eventsDir (appended dir steps) (ownEvents steps) ↔
      (ownEvents steps).Pairwise fun a b => a.ts = b.ts → a.eventId ≤ b.eventId := by
  have hlogged := sublist_logged hdir hlong hts h
  have hkeys : ((logged.insertionSort fun a b => key a ≤ key b).map key) =
      (logged.map key).insertionSort (· ≤ ·) :=
    List.map_insertionSort _ _ key logged fun a _ b _ => Iff.rfl
  have hsorted : ((ownEvents steps).map key).Pairwise (· ≤ ·) ↔
      (ownEvents steps).Pairwise fun a b => a.ts = b.ts → a.eventId ≤ b.eventId := by
    rw [List.pairwise_map]
    constructor
    · intro hle
      refine hle.imp fun {a b} hab hsame => ?_
      rcases Prod.Lex.toLex_le_toLex.1 hab with hlt | ⟨-, hids⟩
      · exact absurd hsame hlt.ne
      · exact hids
    · intro hids
      refine (hts.and hids).imp fun {a b} hab => Prod.Lex.toLex_le_toLex.2 ?_
      rcases hab.1.lt_or_eq with hlt | heq
      · exact .inl hlt
      · exact .inr ⟨heq, hab.2 heq⟩
  rw [← hsorted]
  constructor
  · rintro ⟨events, hevents, hlist, -⟩
    rw [loadEvents_eq h] at hevents
    cases hevents
    rw [hkeys] at hlist
    exact (List.pairwise_insertionSort _ _).sublist hlist
  · intro hown
    refine ⟨_, loadEvents_eq h, ?_, fun limit hlimit => ⟨_, loadRecentEvents_eq h, ?_⟩⟩
    · rw [hkeys]
      exact List.sublist_insertionSort hown hlogged
    · have hall : logged.filter (isOf none) = logged := List.filter_eq_self.2 fun _ _ => rfl
      rw [List.length_insertionSort] at hlimit
      rw [hall, lastEntries_of_le (by omega)]
      exact hlogged

/-- The recent events of a task are the last of its sorted events exactly when, in the files,
these last events are in order and no earlier one belongs behind one of them; and both readings
list the events that one process appended in the order of time in the order in which it appended
them exactly when events of the same time have ids in that order. -/
theorem event_readings_agree_iff {logged : List TaskEvent}
    (h : loggedEvents now eventsDir dir = .ok logged) :
    (∀ id limit, RecentAgrees now eventsDir dir id limit ↔
      SettledTail (fun a b => key a ≤ key b) limit.toNat
        (logged.filter fun e => e.taskId = id)) ∧
    ∀ before steps, dir = appended before steps → WholeLog before →
      (∀ e ∈ ownEvents steps, 10 ≤ e.ts.length) →
      ((ownEvents steps).Pairwise fun a b => a.ts ≤ b.ts) →
      (ListsInOrder now eventsDir dir (ownEvents steps) ↔
        (ownEvents steps).Pairwise fun a b => a.ts = b.ts → a.eventId ≤ b.eventId) := by
  refine ⟨fun id limit => recentAgrees_iff h, ?_⟩
  rintro before steps rfl hdir hlong hts
  exact listsInOrder_iff hdir hlong hts h

-- ════════════════════════════════════════════════════════════════════════
-- Events of one day
-- ════════════════════════════════════════════════════════════════════════

omit [Runtime] in
/-- Events of one day go to one file. -/
theorem files_appended {events : List TaskEvent} {text : String}
    (hfile : dir.files = [⟨name, text⟩]) (hday : ∀ e ∈ events, eventLogPath e.ts = name) :
    ∃ text, (events.foldl appendEvent dir).files = [⟨name, text⟩] := by
  induction events generalizing dir text with
  | nil => exact ⟨text, hfile⟩
  | cons e rest ih =>
    obtain ⟨he, hrest⟩ := List.forall_mem_cons.1 hday
    have hsaved : (appendEvent dir e).files =
        [⟨name, textOf dir (eventLogPath e.ts) ++ EventJson.dumps e.toDict ++ "\n"⟩] := by
      show Directory.place LogFile.name _ dir.files = _
      rw [hfile, Directory.place, if_pos he.symm, he]
    exact ih hsaved hrest

/-- Events that are read back one by one are what stands in the file of their day. -/
theorem loadLines_dumps {events before : List TaskEvent}
    (hread : ∀ e ∈ events, readLine now eventsDir name (EventJson.dumps e.toDict) = .ok (some e))
    (hids : ((before ++ events).map TaskEvent.eventId).Nodup) :
    loadLines now eventsDir name before (events.map fun e => EventJson.dumps e.toDict) =
      .ok (before ++ events) := by
  induction events generalizing before with
  | nil => simp [loadLines]
  | cons e rest ih =>
    obtain ⟨he, hrest⟩ := List.forall_mem_cons.1 hread
    have hnew : e.eventId ∉ before.map TaskEvent.eventId := by
      rw [List.map_append, List.nodup_append] at hids
      exact fun hmem => hids.2.2 _ hmem e.eventId (by simp) rfl
    have hlater := @ih (before ++ [e]) hrest (by simpa using hids)
    rw [List.append_assoc, List.singleton_append] at hlater
    rw [List.map_cons, loadLines, EventJson.dumps_ne_blank, if_neg Bool.false_ne_true, he]
    show (raiseIf (e.eventId ∈ before.map TaskEvent.eventId) _ >>= fun _ => _) = _
    rw [raiseIf, if_neg hnew]
    exact hlater

theorem loggedEvents_day {events : List TaskEvent} {e : TaskEvent}
    (hday : ∀ e' ∈ events, eventLogPath e'.ts = eventLogPath e.ts)
    (hread : ∀ e' ∈ e :: events, ∀ name,
      readLine now eventsDir name (EventJson.dumps e'.toDict) = .ok (some e'))
    (hids : ((e :: events).map TaskEvent.eventId).Nodup) :
    loggedEvents now eventsDir ((e :: events).foldl appendEvent .empty) = .ok (e :: events) := by
  have hempty : WholeLog Directory.empty := nofun
  have hlines := @splitlines_appended _ (eventLogPath e.ts) .empty (e :: events) hempty
  have hfirst : (appendEvent .empty e).files =
      [⟨eventLogPath e.ts, "" ++ EventJson.dumps e.toDict ++ "\n"⟩] := rfl
  obtain ⟨text, hfiles⟩ := files_appended hfirst hday
  have hfile := @textOf_of_mem ((e :: events).foldl appendEvent .empty) ⟨eventLogPath e.ts, text⟩
    (hfiles ▸ List.mem_singleton_self _)
  have hall : ((e :: events).filter fun e' => eventLogPath e'.ts = eventLogPath e.ts) =
      e :: events := List.filter_eq_self.2 (by simpa using hday)
  rw [hall] at hlines
  dsimp only at hfile
  rw [hfile] at hlines
  rw [loggedEvents, List.foldl_cons, hfiles]
  show (loadLines _ _ _ [] (Text.splitlines text) >>= fun events => Except.ok events) = _
  rw [hlines]
  have hload : loadLines now eventsDir (eventLogPath e.ts) [] _ = _ :=
    loadLines_dumps (fun e' he' => hread e' he' (eventLogPath e.ts)) hids
  have hblank : Text.splitlines (textOf Directory.empty (eventLogPath e.ts)) = [] := rfl
  rw [hblank, List.nil_append, hload]
  rfl

end EventOrder

section Evaluation

attribute [local instance] plainRuntime plainJson

/-- An event of a task at one time. -/
def plainEvent (event suffix : String) : TaskEvent where
  ts := "2026-04-24T08:45:00+00:00"
  event := event
  taskId := "task-0001"
  actor := {}
  eventId := nextEventId "2026-04-24T08:45:00+00:00" suffix

/-- Two events of one time, appended by one process. -/
def plainSteps (first second : String) : List (Bool × TaskEvent) :=
  [(true, plainEvent "plan.started" first), (true, plainEvent "plan.proposed" second)]

theorem fromDict_plainEvent {event suffix : String} (h : event ≠ "") :
    TaskEvent.fromDict "" (PlainJson.written (plainEvent event suffix).toDict) =
      .ok (plainEvent event suffix) := by
  have hwritten : PlainJson.written (plainEvent event suffix).toDict =
      [("schema_version", .int 1), ("object_type", .str "event"), ("file_version", .str "v2"),
        ("event_id", .str (plainEvent event suffix).eventId),
        ("ts", .str "2026-04-24T08:45:00+00:00"), ("event", .str event),
        ("task_id", .str "task-0001")] := rfl
  have hid : (plainEvent event suffix).eventId ≠ "" := by
    intro hempty
    have hlist := congrArg String.toList hempty
    simp [plainEvent, nextEventId] at hlist
  rw [hwritten]
  refine bind_eq_ok.2 ⟨(), rfl, ?_⟩
  simp [stringValue, requireString, raiseIf, Dict.get_cons, h, hid]
  rfl

theorem loggedEvents_plain {first second : String}
    (h : nextEventId "2026-04-24T08:45:00+00:00" first ≠
      nextEventId "2026-04-24T08:45:00+00:00" second) :
    loggedEvents "" "events" (appended .empty (plainSteps first second)) =
      .ok [plainEvent "plan.started" first, plainEvent "plan.proposed" second] := by
  have hread (event suffix name : String) (hne : event ≠ "") :
      readLine "" "events" name (EventJson.dumps (plainEvent event suffix).toDict) =
        .ok (some (plainEvent event suffix)) := by
    have hloads : EventJson.loads (EventJson.dumps (plainEvent event suffix).toDict) = _ :=
      PlainJson.loads_dumps _
    rw [readLine, hloads]
    exact map_eq_ok.2 ⟨_, fromDict_plainEvent hne, rfl⟩
  refine loggedEvents_day (fun e he => ?_) (fun e he name => ?_) ?_
  · rw [List.mem_singleton.1 he]
    rfl
  · rcases List.mem_cons.1 he with rfl | he
    · exact hread _ _ _ (by decide)
    · rw [List.mem_singleton.1 he]
      exact hread _ _ _ (by decide)
  · exact List.nodup_cons.2 ⟨fun hmem => h (List.mem_singleton.1 hmem), List.nodup_singleton _⟩

theorem event_readings_agree_plain :
    RecentAgrees "" "events" (appended .empty (plainSteps "1a" "2b")) "task-0001" 1 ∧
      ListsInOrder "" "events" (appended .empty (plainSteps "1a" "2b"))
        (ownEvents (plainSteps "1a" "2b")) := by
  have hlogged := @loggedEvents_plain "1a" "2b" (by decide)
  have hworks := event_readings_agree_iff hlogged
  have hsorted : [plainEvent "plan.started" "1a", plainEvent "plan.proposed" "2b"].Pairwise
      fun a b => key a ≤ key b := by decide
  constructor
  · exact (hworks.1 "task-0001" 1).2 (.of_pairwise (hsorted.filter _))
  · exact (hworks.2 .empty (plainSteps "1a" "2b") rfl nofun (by decide)
      (by decide)).2 (by decide)

/-- An id that comes before the id of an earlier event of the same time. -/
theorem same_time_events_disagree :
    ¬ RecentAgrees "" "events" (appended .empty (plainSteps "2b" "1a")) "task-0001" 1 ∧
      ¬ ListsInOrder "" "events" (appended .empty (plainSteps "2b" "1a"))
        (ownEvents (plainSteps "2b" "1a")) := by
  have hlogged := @loggedEvents_plain "2b" "1a" (by decide)
  constructor
  · rw [recentAgrees_iff hlogged]
    rintro ⟨-, hafter⟩
    have hlate := hafter (plainEvent "plan.started" "2b") (List.mem_singleton_self _)
      (plainEvent "plan.proposed" "1a") (List.mem_singleton_self _)
    revert hlate
    decide
  · have hempty : WholeLog Directory.empty := nofun
    rw [listsInOrder_iff hempty (by decide) (by decide) hlogged]
    decide

end Evaluation

end EventLog

end Taskledger
