import Taskledger.Lifecycle.Reads

/-!
# The listings of a rebuild

A rebuild of the indexes lists every task, introduction, lock and requirement, and
raises on a record that does not load.
-/

namespace Taskledger

open Library Action

section Listings

variable [Runtime] {s s' : Ledger} {env : Env} {α : Type}

/-- Every record that `rebuild_v2_indexes` lists loads. -/
structure Ledger.Rebuilds (s : Ledger) : Prop where
  tasks : ∀ t ∈ s.tasks.files, ∃ t', t.reload = .ok t'
  introductions : ∀ i ∈ s.introductions.files, ∃ i', i.reload = .ok i'
  locks : ∀ l ∈ s.locks.files, ∃ l', l.reload = .ok l'
  requirements : ∀ t ∈ s.tasks.files, ∀ f ∈ s.requirements.files, f.owner = t.id →
    ∃ r, f.record.reload = .ok r

omit [Runtime] in
/-- A listing of the sidecars of a task returns when each of them loads. -/
theorem filed_loads {α β : Type} {reload : α → Except Raised α} {files : List (Filed α)}
    {id : String} {sort : List α → β} :
    (∃ l, (do let read ← reloadAll reload (filedUnder id files); return sort read) =
        (.ok l : Except Raised β)) ↔
      ∀ f ∈ files, f.owner = id → ∃ r, reload f.record = .ok r := by
  have hread : (∃ l, (do let read ← reloadAll reload (filedUnder id files); return sort read) =
      (.ok l : Except Raised β)) ↔ ∃ l, reloadAll reload (filedUnder id files) = .ok l := by
    constructor
    · rintro ⟨l, h⟩
      obtain ⟨read, hread, -⟩ := bind_eq_ok.1 h
      exact ⟨read, hread⟩
    · rintro ⟨read, hread⟩
      exact ⟨_, bind_eq_ok.2 ⟨read, hread, rfl⟩⟩
  rw [hread, reloadAll_loads]
  simp only [filedUnder, List.mem_map, List.mem_filter, decide_eq_true_eq]
  constructor
  · intro h f hf howner
    exact h f.record ⟨f, ⟨hf, howner⟩, rfl⟩
  · rintro h _ ⟨f, ⟨hf, howner⟩, rfl⟩
    exact h f hf howner

omit [Runtime] in
theorem loadRequirements_loads {id : String} : (∃ l, loadRequirements id s = .ok l) ↔
    ∀ f ∈ s.requirements.files, f.owner = id → ∃ r, f.record.reload = .ok r :=
  filed_loads

omit [Runtime] in
theorem loadTodos_loads {id : String} : (∃ l, loadTodos id s = .ok l) ↔
    ∀ f ∈ s.todos.files, f.owner = id → ∃ t, f.record.reload = .ok t :=
  filed_loads

omit [Runtime] in
theorem taskWithSidecars_loads {t : TaskRecord} : (∃ u, taskWithSidecars t s = .ok u) ↔
    (∃ l, loadRequirements t.id s = .ok l) ∧ (∃ l, loadLinks t.id s = .ok l) ∧
      ∃ l, loadTodos t.id s = .ok l := by
  simp only [taskWithSidecars, Query.bind_eq_ok, Query.pure_eq_ok]
  constructor
  · rintro ⟨_, l, hl, l', hl', l'', hl'', -⟩
    exact ⟨⟨l, hl⟩, ⟨l', hl'⟩, l'', hl''⟩
  · rintro ⟨⟨l, hl⟩, ⟨l', hl'⟩, l'', hl''⟩
    exact ⟨_, l, hl, l', hl', l'', hl'', rfl⟩

omit [Runtime] in
theorem loadAllRequirements_loads {l : List TaskRecord} : (∃ u, loadAllRequirements s l = .ok u) ↔
    ∀ t ∈ l, ∃ r, loadRequirements t.id s = .ok r := by
  induction l with
  | nil => simp [loadAllRequirements]
  | cons t rest ih =>
    rw [List.forall_mem_cons, ← ih]
    constructor
    · rintro ⟨u, h⟩
      obtain ⟨r, hr, h⟩ := bind_eq_ok.1 h
      exact ⟨⟨r, hr⟩, u, h⟩
    · rintro ⟨⟨r, hr⟩, u, h⟩
      exact ⟨u, bind_eq_ok.2 ⟨r, hr, h⟩⟩

theorem listTasks_loads :
    (∃ l, listTasks s = .ok l) ↔ ∀ t ∈ s.tasks.files, ∃ t', t.reload = .ok t' := by
  rw [← reloadAll_loads]
  constructor
  · rintro ⟨l, h⟩
    obtain ⟨read, hread, -⟩ := bind_eq_ok.1 h
    exact ⟨read, hread⟩
  · rintro ⟨read, hread⟩
    exact ⟨_, bind_eq_ok.2 ⟨read, hread, rfl⟩⟩

theorem listIntroductions_loads : (∃ l, listIntroductions s = .ok l) ↔
    ∀ i ∈ s.introductions.files, ∃ i', i.reload = .ok i' := by
  rw [← reloadAll_loads]
  constructor
  · rintro ⟨l, h⟩
    obtain ⟨read, hread, -⟩ := bind_eq_ok.1 h
    exact ⟨read, hread⟩
  · rintro ⟨read, hread⟩
    exact ⟨_, bind_eq_ok.2 ⟨read, hread, rfl⟩⟩

omit [Runtime] in
theorem loadActiveLocks_loads : (∃ l, loadActiveLocks s = .ok l) ↔
    ∀ l ∈ s.locks.files, ∃ l', l.reload = .ok l' := by
  unfold loadActiveLocks
  rw [reloadAll_loads]
  simp only [mem_sortedBy]

theorem rebuildV2Indexes_loads : (∃ u, rebuildV2Indexes s = .ok u) ↔ s.Rebuilds := by
  constructor
  · rintro ⟨u, h⟩
    obtain ⟨tasks, htasks, h⟩ := bind_eq_ok.1 h
    obtain ⟨introductions, hintroductions, h⟩ := bind_eq_ok.1 h
    obtain ⟨locks, hlocks, h⟩ := bind_eq_ok.1 h
    have hall := listTasks_loads.1 ⟨tasks, htasks⟩
    refine ⟨hall, listIntroductions_loads.1 ⟨_, hintroductions⟩,
      loadActiveLocks_loads.1 ⟨_, hlocks⟩, fun t ht => ?_⟩
    obtain ⟨t', ht'⟩ := hall t ht
    rw [← (TaskRecord.of_reload ht').1]
    exact loadRequirements_loads.1
      (loadAllRequirements_loads.1 ⟨u, h⟩ t' ((mem_listTasks htasks).2 ⟨t, ht, ht'⟩))
  · rintro ⟨htasks, hintroductions, hlocks, hrequirements⟩
    obtain ⟨tasks, htasks⟩ := listTasks_loads.2 htasks
    obtain ⟨introductions, hintroductions⟩ := listIntroductions_loads.2 hintroductions
    obtain ⟨locks, hlocks⟩ := loadActiveLocks_loads.2 hlocks
    have hall : ∀ t ∈ tasks, ∃ r, loadRequirements t.id s = .ok r := fun t ht => by
      obtain ⟨stored, hstored, hr⟩ := (mem_listTasks htasks).1 ht
      rw [(TaskRecord.of_reload hr).1]
      exact loadRequirements_loads.2 (hrequirements stored hstored)
    obtain ⟨u, h⟩ := loadAllRequirements_loads.2 hall
    exact ⟨u, bind_eq_ok.2 ⟨tasks, htasks, bind_eq_ok.2 ⟨introductions, hintroductions,
      bind_eq_ok.2 ⟨locks, hlocks, h⟩⟩⟩⟩

/-- A rebuild depends on the records it lists. -/
theorem Ledger.Rebuilds.congr (ht : s'.tasks = s.tasks) (hi : s'.introductions = s.introductions)
    (hl : s'.locks = s.locks) (hr : s'.requirements = s.requirements) :
    s'.Rebuilds ↔ s.Rebuilds := by
  constructor
  · rintro ⟨h1, h2, h3, h4⟩
    rw [ht] at h1 h4
    rw [hi] at h2
    rw [hl] at h3
    rw [hr] at h4
    exact ⟨h1, h2, h3, h4⟩
  · rintro ⟨h1, h2, h3, h4⟩
    rw [← ht] at h1 h4
    rw [← hi] at h2
    rw [← hl] at h3
    rw [← hr] at h4
    exact ⟨h1, h2, h3, h4⟩

theorem Ledger.rebuilds_withEvents {events : List TaskEvent} :
    (s.withEvents events).Rebuilds ↔ s.Rebuilds := Ledger.Rebuilds.congr rfl rfl rfl rfl

/-- Another record of a stored task, both of which load. -/
theorem Ledger.rebuilds_putTask {t u : TaskRecord} (ht : s.tasks.lookup u.id = some t)
    (hold : ∃ t', t.reload = .ok t') (hnew : ∃ u', u.reload = .ok u') :
    (s.putTask u).Rebuilds ↔ s.Rebuilds := by
  have hid : t.id = u.id := Directory.key_of_lookup ht
  have hfiles (v : TaskRecord) :
      v ∈ (s.putTask u).tasks.files ↔ v = u ∨ v ∈ s.tasks.files ∧ v.id ≠ u.id :=
    Directory.mem_files_save
  constructor
  · rintro ⟨h1, h2, h3, h4⟩
    refine ⟨fun v hv => ?_, h2, h3, fun v hv => ?_⟩
    · by_cases hvu : v.id = u.id
      · cases (Directory.lookup_of_mem hv).symm.trans (hvu ▸ ht)
        exact hold
      · exact h1 v ((hfiles v).2 (.inr ⟨hv, hvu⟩))
    · by_cases hvu : v.id = u.id
      · rw [hvu]
        exact h4 u ((hfiles u).2 (.inl rfl))
      · exact h4 v ((hfiles v).2 (.inr ⟨hv, hvu⟩))
  · rintro ⟨h1, h2, h3, h4⟩
    refine ⟨fun v hv => ?_, h2, h3, fun v hv => ?_⟩
    · rcases (hfiles v).1 hv with rfl | ⟨hv, -⟩
      · exact hnew
      · exact h1 v hv
    · rcases (hfiles v).1 hv with rfl | ⟨hv, -⟩
      · rw [← hid]
        exact h4 t (Directory.mem_of_lookup ht)
      · exact h4 v hv

/-- A lock that loads is removed. -/
theorem Ledger.rebuilds_dropLock {id : String} (h : ∀ l ∈ s.locks.files, ∃ l', l.reload = .ok l') :
    (s.dropLock id).Rebuilds ↔ s.Rebuilds := by
  constructor
  · rintro ⟨h1, h2, -, h4⟩
    exact ⟨h1, h2, h, h4⟩
  · rintro ⟨h1, h2, h3, h4⟩
    exact ⟨h1, h2, fun l hl => h3 l (Directory.mem_files_removeWhere.1 hl).1, h4⟩

/-- A task loads when its id, slug and title are not empty. -/
theorem TaskRecord.loads_iff {t : TaskRecord} :
    (∃ t', t.reload = .ok t') ↔ t.id ≠ "" ∧ t.slug ≠ "" ∧ t.title ≠ "" := by
  simp only [TaskRecord.reload, bind_eq_ok, pure_eq_ok, requireString, raiseIf_eq_ok]
  constructor
  · rintro ⟨_, _, hid, _, hslug, _, htitle, -⟩
    exact ⟨hid, hslug, htitle⟩
  · rintro ⟨hid, hslug, htitle⟩
    exact ⟨_, (), hid, (), hslug, (), htitle, rfl⟩

theorem TaskRecord.loads_congr {t u : TaskRecord} (h : ∃ t', t.reload = .ok t') (hid : u.id = t.id)
    (hslug : u.slug = t.slug) (htitle : u.title = t.title) : ∃ u', u.reload = .ok u' := by
  rw [TaskRecord.loads_iff] at h ⊢
  rwa [hid, hslug, htitle]

/-- A task read from its file loads again. -/
theorem TaskRecord.reload_again {t t' : TaskRecord} (h : t.reload = .ok t') :
    ∃ u, t'.reload = .ok u := by
  have hloads := TaskRecord.loads_iff.1 ⟨t', h⟩
  simp only [TaskRecord.reload, bind_eq_ok, pure_eq_ok] at h
  obtain ⟨-, -, -, -, -, -, rfl⟩ := h
  exact TaskRecord.loads_iff.2 hloads

/-- Appending an event changes the list of events only. -/
theorem sat_eventList {taskId event : String} {data : Dict} {k : Unit → LedgerAction α}
    {Q : Except Raised α → Ledger → Prop} (hk : ∀ events, (k ()).Sat (s.withEvents events) Q) :
    (appendEvent env taskId event data >>= k).Sat s Q := by
  refine Sat.write ?_
  by_cases h : env.eventLogging = true
  · rw [if_pos h]
    exact hk _
  · rw [if_neg h]
    exact hk s.events

/-- An event appended at the end. -/
theorem sat_lastEventList {taskId event : String} {data : Dict}
    {Q : Except Raised Unit → Ledger → Prop} (h : ∀ events, Q (.ok ()) (s.withEvents events)) :
    (appendEvent env taskId event data).Sat s Q := by
  unfold appendEvent
  by_cases hlog : env.eventLogging = true
  · simp only [hlog, if_true]
    exact h _
  · simp only [hlog]
    exact h s.events

end Listings

end Taskledger
