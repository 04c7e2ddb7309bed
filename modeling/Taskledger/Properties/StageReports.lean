import Taskledger.PlainJson
import Taskledger.Properties.Approval
import Taskledger.Properties.ReadViews
import Taskledger.Services.StageViews

/-!
# Reports of the active stage

The payload, the dashboard and the tree report the stage of a live lock. The monitor
reports the stage of any lock, and none in its rows; so where the monitor can be shown, the
views agree just while nothing is under way. A view that cannot read what it shows reports
nothing.
-/

namespace Taskledger

open Library Action Lifecycle

-- ════════════════════════════════════════════════════════════════════════
-- What the views read
-- ════════════════════════════════════════════════════════════════════════

/-- What the views are shown of: a ledger, the guidance of its project and its event logs. -/
structure Workspace where
  ledger : Ledger
  guidance : ProjectGuidance := {}
  eventsDir : String := "events"
  logs : EventsDir

section Stages

variable [Runtime] {s : Ledger} {env : Env} {id : String} {t : TaskRecord} {row : Dict}
  {stage : Option RunType} {w : Workspace}

omit [Runtime] in
/-- What a query reads can be read. -/
def Ledger.Loads {α : Type} (s : Ledger) (q : LedgerQuery α) : Prop := ∃ a, q s = .ok a

/-- The files that the payload of a task shows can be read. -/
structure Ledger.Shows (env : Env) (s : Ledger) (t shown : TaskRecord) : Prop where
  sidecars : taskWithSidecars t s = .ok shown
  plans : s.Loads (listPlans t.id)
  questions : s.Loads (listQuestions t.id)
  runs : s.Loads (listRuns t.id)
  changes : s.Loads (listChanges t.id)
  relationships : s.Loads (buildTaskRelationshipPayload env shown)

/-- What the monitor shows of the task in focus can be read. -/
structure Workspace.Focuses (env : Env) (w : Workspace) (t : TaskRecord) : Prop where
  runs : w.ledger.Loads (listRuns t.id)
  todos : w.ledger.Loads (loadTodos t.id)
  next : w.ledger.Loads (nextActionForTask env w.guidance t)

/-- The monitor can be shown: the priorities of its rows can be ranked, and there is a task to
focus on that can be read, or none is active. -/
structure Workspace.Monitored (env : Env) (w : Workspace) : Prop where
  ranked : ∀ t ∈ w.ledger.tasks.files, isArchivedTask t = false →
    t.statusStage ∈ activeTaskStages ++ readyStatuses → ∃ rank, priorityRank t.priority = .ok rank
  subject : loadActiveTaskState w.ledger = .ok none ∨
    ∃ ref t, resolveTask ref false w.ledger = .ok t ∧ w.Focuses env t

/-- The files that a tree of some tasks shows can be read. -/
structure Ledger.Draws (env : Env) (s : Ledger) (fuel : ℕ) (options : TreeOptions)
    (tasks : List TaskRecord) : Prop where
  shown : treeShown fuel options s = .ok (some tasks)
  state : s.Loads loadActiveTaskState
  releases : s.Loads listReleases
  locks : s.Loads loadActiveLocks
  runs : ∀ t ∈ tasks, ∀ lock, readLock t.id s = .ok (some lock) →
    lockIsExpired env lock = .ok false → s.Loads (listRuns t.id)

/-- Nothing is under way, as far as the views read. -/
structure Workspace.AtRest (env : Env) (w : Workspace) : Prop where
  /-- No task that is not archived is in an active stage. -/
  stages : ∀ t ∈ w.ledger.tasks.files, isArchivedTask t = false → t.statusStage ∉ activeTaskStages
  /-- No task that the monitor can focus on has a lock, or is in an active stage. -/
  focused : ∀ ref t, resolveTask ref false w.ledger = .ok t → w.Focuses env t →
    readLock t.id w.ledger = .ok none ∧ t.statusStage ∉ activeTaskStages
  /-- No task whose payload can be shown has a live lock. -/
  shown : ∀ ref includeArchived t shown lock, resolveTask ref includeArchived w.ledger = .ok t →
    w.ledger.Shows env t shown → readLock t.id w.ledger = .ok (some lock) →
    lockIsExpired env lock = .ok true
  /-- No task of a tree that can be shown has a live lock. -/
  drawn : ∀ fuel options tasks, w.ledger.Draws env fuel options tasks → ∀ t ∈ tasks, ∀ lock,
    readLock t.id w.ledger = .ok (some lock) → lockIsExpired env lock = .ok true

-- ════════════════════════════════════════════════════════════════════════
-- The stages that are shown
-- ════════════════════════════════════════════════════════════════════════

theorem get_id_taskPayload : (taskPayload t stage).get "id" = .str t.id := by
  simp only [taskPayload, Dict.get_set, String.reduceEq, if_false]
  rfl

theorem get_activeStage_taskPayload :
    (taskPayload t stage).get "active_stage" = stageValue stage := by
  simp only [taskPayload, Dict.get_set, if_true]

omit [Runtime] in
@[simp]
theorem stageValue_eq_null : stageValue stage = .null ↔ stage = none := by
  cases stage <;> simp [stageValue, Value.ofOption]

/-- The active stage depends on the id of the task. -/
theorem taskActiveStage_congr {u : TaskRecord} (h : u.id = t.id) :
    taskActiveStage env u s = taskActiveStage env t s := by
  unfold taskActiveStage
  rw [h]

/-- An active stage is the one of a live lock. -/
theorem taskActiveStage_eq_some {runType : RunType}
    (h : taskActiveStage env t s = .ok (some runType)) :
    ∃ lock runs, readLock t.id s = .ok (some lock) ∧ lockIsExpired env lock = .ok false ∧
      listRuns t.id s = .ok runs := by
  obtain ⟨lock, hlock, h⟩ := Query.bind_eq_ok.1 h
  cases lock with
  | none => cases Query.pure_eq_ok.1 h
  | some l =>
    obtain ⟨expired, hexpired, h⟩ := Query.bind_eq_ok.1 h
    cases expired with
    | true => cases Query.pure_eq_ok.1 h
    | false =>
      obtain ⟨runs, hruns, -⟩ := Query.bind_eq_ok.1 h
      exact ⟨l, runs, hlock, hexpired, hruns⟩

/-- The stage of a live lock is found from the runs. -/
theorem listRuns_of_live {lock : TaskLock} (h : taskActiveStage env t s = .ok stage)
    (hlock : readLock t.id s = .ok (some lock)) (hlive : lockIsExpired env lock = .ok false) :
    s.Loads (listRuns t.id) := by
  obtain ⟨lock', hlock', h⟩ := Query.bind_eq_ok.1 h
  cases hlock.symm.trans hlock'
  obtain ⟨expired, hexpired, h⟩ := Query.bind_eq_ok.1 h
  cases hlive.symm.trans hexpired
  obtain ⟨runs, hruns, -⟩ := Query.bind_eq_ok.1 h
  exact ⟨runs, hruns⟩

/-- A view reports the active stage of its task. -/
def ShowsStage (env : Env) (s : Ledger) (t : TaskRecord) (row : Dict) : Prop :=
  ∃ stage, taskActiveStage env t s = .ok stage ∧ row.get "id" = .str t.id ∧
    row.get "active_stage" = stageValue stage

theorem ShowsStage.id_eq (h : ShowsStage env s t row) (hid : row.get "id" = .str id) :
    t.id = id := by
  obtain ⟨stage, -, hrow, -⟩ := h
  exact Value.str.inj (hrow.symm.trans hid)

/-- At rest no view shows a stage. -/
theorem shows_atRest (hrow : ShowsStage env s t row)
    (hidle : ∀ lock runs, readLock t.id s = .ok (some lock) → listRuns t.id s = .ok runs →
      lockIsExpired env lock ≠ .ok false) : row.get "active_stage" = .null := by
  obtain ⟨stage, hstage, -, hreport⟩ := hrow
  rw [hreport, stageValue_eq_null]
  cases stage with
  | none => rfl
  | some runType =>
    obtain ⟨lock, runs, hlock, hlive, hruns⟩ := taskActiveStage_eq_some hstage
    exact absurd hlive (hidle lock runs hlock hruns)

/-- The stage that a view finds from the lock and the runs that it has read. -/
theorem taskActiveStage_of_read {lock : Option TaskLock} {runs : List TaskRunRecord}
    (hlock : readLock t.id s = .ok lock) (hruns : listRuns t.id s = .ok runs)
    (hstage : stageOfLock env lock runs = .ok stage) : taskActiveStage env t s = .ok stage := by
  refine Query.bind_eq_ok.2 ⟨lock, hlock, ?_⟩
  cases lock with
  | none => exact hstage
  | some l =>
    obtain ⟨expired, hexpired, hstage⟩ := bind_eq_ok.1 hstage
    refine Query.bind_eq_ok.2 ⟨expired, hexpired, ?_⟩
    cases expired with
    | true => exact hstage
    | false => exact Query.bind_eq_ok.2 ⟨runs, hruns, hstage⟩

theorem stageOfLock_live {lock : TaskLock} {runs : List TaskRunRecord}
    (h : lockIsExpired env lock = .ok false) :
    stageOfLock env (some lock) runs = .ok (deriveActiveStage (some lock) runs) :=
  bind_eq_ok.2 ⟨false, h, rfl⟩

theorem showTask_eq_ok {ref : String} {includeArchived : Bool} {view : TaskView}
    (h : showTask env ref includeArchived s = .ok view) :
    ∃ t shown, resolveTask ref includeArchived s = .ok t ∧ s.Shows env t shown ∧
      ShowsStage env s t view.task := by
  simp only [showTask, Query.bind_eq_ok, Query.pure_eq_ok] at h
  obtain ⟨t, ht, shown, hshown, lock, hlock, plans, hplans, questions, hquestions, runs, hruns,
    changes, hchanges, relationships, hrelationships, stage, hstage, rfl⟩ := h
  have hid : shown.id = t.id := (taskWithSidecars_eq_ok hshown).id
  rw [hid] at hlock hplans hquestions hruns hchanges
  refine ⟨t, shown, ht, ⟨hshown, ⟨_, hplans⟩, ⟨_, hquestions⟩, ⟨_, hruns⟩, ⟨_, hchanges⟩,
    ⟨_, hrelationships⟩⟩, stage, taskActiveStage_of_read hlock hruns hstage, ?_,
    get_activeStage_taskPayload⟩
  rw [get_id_taskPayload, hid]

/-- A payload whose files can be read is shown. -/
theorem showTask_shows {ref : String} {includeArchived : Bool} {shown : TaskRecord}
    {lock : TaskLock} (ht : resolveTask ref includeArchived s = .ok t) (h : s.Shows env t shown)
    (hlock : readLock t.id s = .ok (some lock)) (hlive : lockIsExpired env lock = .ok false) :
    ∃ view runs, showTask env ref includeArchived s = .ok view ∧ listRuns t.id s = .ok runs ∧
      view.task.get "id" = .str t.id ∧
      view.task.get "active_stage" = stageValue (deriveActiveStage (some lock) runs) := by
  obtain ⟨hshown, ⟨plans, hplans⟩, ⟨questions, hquestions⟩, ⟨runs, hruns⟩, ⟨changes, hchanges⟩,
    ⟨relationships, hrelationships⟩⟩ := h
  have hid : shown.id = t.id := (taskWithSidecars_eq_ok hshown).id
  have hview : showTask env ref includeArchived s = .ok
      { task := taskPayload shown (deriveActiveStage (some lock) runs)
        lock := some lock
        plans := plans
        questions := questions
        runs := runs
        changes := changes
        relationships := relationships } := by
    simp only [showTask, Query.bind_eq_ok, Query.pure_eq_ok]
    refine ⟨t, ht, shown, hshown, ?_⟩
    rw [hid]
    exact ⟨some lock, hlock, plans, hplans, questions, hquestions, runs, hruns, changes, hchanges,
      relationships, hrelationships, _, stageOfLock_live hlive, rfl⟩
  refine ⟨_, runs, hview, hruns, ?_, get_activeStage_taskPayload⟩
  rw [get_id_taskPayload, hid]

/-- Whether the lock of a task is expired can be told. -/
theorem told_of_sound (hs : s.Sound) {lock : TaskLock} (hlock : readLock id s = .ok (some lock)) :
    ∃ expired, lockIsExpired env lock = .ok expired := by
  have hsound := (hs id).lockSound _ (view_locked hlock)
  exact lockIsExpired_of_isSound hsound

/-- The lock of a task names a running run that is listed. -/
theorem deriveActiveStage_of_locked (hs : s.Sound) {lock : TaskLock} {runs : List TaskRunRecord}
    (hlock : readLock id s = .ok (some lock)) (hruns : listRuns id s = .ok runs) :
    deriveActiveStage (some lock) runs ≠ none := by
  obtain ⟨core, hcore, htype, hrunning⟩ := (hs id).lockNames _ (view_locked hlock)
  obtain ⟨stored, hstored, rfl⟩ := Option.map_eq_some_iff.1 hcore
  obtain ⟨htask, hrunId⟩ := key_of_run hstored
  obtain ⟨r, hr, hreload⟩ := listRuns_loads hruns (Directory.mem_of_lookup hstored) htask
  obtain ⟨hid, -, hrunType, hstatus, -⟩ := TaskRunRecord.of_reload hreload
  rw [deriveActiveStage, ne_eq, Option.map_eq_none_iff, List.find?_eq_none]
  intro hnone
  refine hnone r hr (decide_eq_true ⟨hid.trans hrunId, hrunType.trans htype, ?_⟩)
  exact hstatus.trans hrunning

/-- The live locks are those that are not expired. -/
theorem mem_liveLocks {locks live : List TaskLock} (h : liveLocks env locks = .ok live)
    {lock : TaskLock} : lock ∈ live ↔ lock ∈ locks ∧ lockIsExpired env lock = .ok false := by
  induction locks generalizing live with
  | nil =>
    cases h
    simp
  | cons first rest ih =>
    obtain ⟨expired, hexpired, h⟩ := bind_eq_ok.1 h
    obtain ⟨others, hothers, h⟩ := bind_eq_ok.1 h
    cases pure_eq_ok.1 h
    have hmem := ih hothers
    cases expired with
    | true =>
      rw [if_pos rfl, hmem, List.mem_cons]
      constructor
      · rintro ⟨hlock, hlive⟩
        exact ⟨.inr hlock, hlive⟩
      · rintro ⟨rfl | hlock, hlive⟩
        · cases hexpired.symm.trans hlive
        · exact ⟨hlock, hlive⟩
    | false =>
      rw [if_neg (by simp), List.mem_cons, hmem, List.mem_cons]
      constructor
      · rintro (rfl | ⟨hlock, hlive⟩)
        · exact ⟨.inl rfl, hexpired⟩
        · exact ⟨.inr hlock, hlive⟩
      · rintro ⟨rfl | hlock, hlive⟩
        · exact .inl rfl
        · exact .inr ⟨hlock, hlive⟩

/-- Whether a lock is expired was told of each of them. -/
theorem told_of_liveLocks {locks live : List TaskLock} (h : liveLocks env locks = .ok live) :
    ∀ lock ∈ locks, ∃ expired, lockIsExpired env lock = .ok expired := by
  induction locks generalizing live with
  | nil => simp
  | cons first rest ih =>
    obtain ⟨expired, hexpired, h⟩ := bind_eq_ok.1 h
    obtain ⟨others, hothers, -⟩ := bind_eq_ok.1 h
    exact List.forall_mem_cons.2 ⟨⟨expired, hexpired⟩, ih hothers⟩

theorem liveLocks_loads {locks : List TaskLock}
    (h : ∀ lock ∈ locks, ∃ expired, lockIsExpired env lock = .ok expired) :
    ∃ live, liveLocks env locks = .ok live := by
  induction locks with
  | nil => exact ⟨[], rfl⟩
  | cons first rest ih =>
    obtain ⟨⟨expired, hexpired⟩, hrest⟩ := List.forall_mem_cons.1 h
    obtain ⟨live, hlive⟩ := ih hrest
    exact ⟨_, bind_eq_ok.2 ⟨expired, hexpired, bind_eq_ok.2 ⟨live, hlive, rfl⟩⟩⟩

theorem treeStage_eq_ok {locks live : List TaskLock} (hs : s.Sound)
    (hlocks : loadActiveLocks s = .ok locks) (hlive : liveLocks env locks = .ok live)
    (h : treeStage live t.id s = .ok stage) : taskActiveStage env t s = .ok stage := by
  unfold treeStage at h
  cases hlast : (live.filter fun l => l.taskId = t.id).getLast? with
  | none =>
    rw [hlast] at h
    obtain ⟨lock, hlock⟩ := readLock_loads hs t.id
    refine Query.bind_eq_ok.2 ⟨lock, hlock, ?_⟩
    cases lock with
    | none => exact h
    | some l =>
      have hid := (readLock_filed hlock).1
      have hmem : l ∈ locks := (mem_loadActiveLocks hlocks).2 (by rw [hid]; exact hlock)
      obtain ⟨expired, hexpired⟩ := told_of_liveLocks hlive l hmem
      refine Query.bind_eq_ok.2 ⟨expired, hexpired, ?_⟩
      cases expired with
      | true => exact h
      | false =>
        -- a live lock of the task would be the last one
        have hnone := List.getLast?_eq_none_iff.1 hlast
        rw [List.filter_eq_nil_iff] at hnone
        exact absurd (decide_eq_true hid) (hnone l ((mem_liveLocks hlive).2 ⟨hmem, hexpired⟩))
  | some l =>
    rw [hlast] at h
    obtain ⟨hmem, hid⟩ := List.mem_filter.1 (List.mem_of_getLast? hlast)
    obtain ⟨hlock, hexpired⟩ := (mem_liveLocks hlive).1 hmem
    have hread := (mem_loadActiveLocks hlocks).1 hlock
    rw [of_decide_eq_true hid] at hread
    exact Query.bind_eq_ok.2 ⟨some l, hread, Query.bind_eq_ok.2 ⟨false, hexpired, h⟩⟩

/-- A node of a tree reports the stage of its task. -/
theorem treeNode_eq_ok {activeTaskId : Option String} {locks live : List TaskLock}
    {details : Bool} (hs : s.Sound) (hlocks : loadActiveLocks s = .ok locks)
    (hlive : liveLocks env locks = .ok live)
    (h : treeNode activeTaskId live details t s = .ok row) : ShowsStage env s t row := by
  obtain ⟨stage, hstage, h⟩ := Query.bind_eq_ok.1 h
  obtain ⟨counts, -, h⟩ := Query.bind_eq_ok.1 h
  cases Query.pure_eq_ok.1 h
  exact ⟨stage, treeStage_eq_ok hs hlocks hlive hstage, rfl, rfl⟩

/-- The rows of a tree are those of its tasks. -/
theorem treeNodes_eq_ok (hs : s.Sound) {fuel : ℕ} {options : TreeOptions} {rows : List Dict}
    (h : treeNodes env fuel options s = .ok (some rows)) :
    ∃ tasks, s.Draws env fuel options tasks ∧
      ∀ row ∈ rows, ∃ t ∈ tasks, ShowsStage env s t row := by
  obtain ⟨state, hstate, h⟩ := Query.bind_eq_ok.1 h
  obtain ⟨shown, hshown, h⟩ := Query.bind_eq_ok.1 h
  obtain ⟨releases, hreleases, h⟩ := Query.bind_eq_ok.1 h
  obtain ⟨locks, hlocks, h⟩ := Query.bind_eq_ok.1 h
  obtain ⟨live, hlive, h⟩ := Query.bind_eq_ok.1 h
  cases shown with
  | none => cases Query.pure_eq_ok.1 h
  | some tasks =>
    obtain ⟨rows', hrows, h⟩ := Query.bind_eq_ok.1 h
    cases Query.pure_eq_ok.1 h
    refine ⟨tasks, ⟨hshown, ⟨_, hstate⟩, ⟨_, hreleases⟩, ⟨_, hlocks⟩, fun t ht lock hlock hl => ?_⟩,
      fun row hrow => ?_⟩
    · obtain ⟨node, -, hnode⟩ := Query.given_mapM hrows ht
      obtain ⟨stage, hstage, -⟩ := treeNode_eq_ok hs hlocks hlive hnode
      exact listRuns_of_live hstage hlock hl
    · obtain ⟨t, ht, hnode⟩ := Query.mem_mapM hrows hrow
      exact ⟨t, ht, treeNode_eq_ok hs hlocks hlive hnode⟩

/-- A tree whose files can be read shows each of its tasks. -/
theorem treeNodes_draws (hs : s.Sound) {fuel : ℕ} {options : TreeOptions}
    {tasks : List TaskRecord} (h : s.Draws env fuel options tasks) (ht : t ∈ tasks) :
    ∃ rows row, treeNodes env fuel { options with details := false } s = .ok (some rows) ∧
      row ∈ rows ∧ ShowsStage env s t row := by
  obtain ⟨state, hstate⟩ := h.state
  obtain ⟨releases, hreleases⟩ := h.releases
  obtain ⟨locks, hlocks⟩ := h.locks
  have htold : ∀ lock ∈ locks, ∃ expired, lockIsExpired env lock = .ok expired :=
    fun lock hlock => told_of_sound hs ((mem_loadActiveLocks hlocks).1 hlock)
  obtain ⟨live, hlive⟩ := liveLocks_loads htold
  have hstage {u : TaskRecord} (hu : u ∈ tasks) : ∃ stage, treeStage live u.id s = .ok stage := by
    unfold treeStage
    cases hlast : (live.filter fun l => l.taskId = u.id).getLast? with
    | none => exact ⟨none, rfl⟩
    | some l =>
      obtain ⟨hmem, hid⟩ := List.mem_filter.1 (List.mem_of_getLast? hlast)
      obtain ⟨hlock, hexpired⟩ := (mem_liveLocks hlive).1 hmem
      have hread := (mem_loadActiveLocks hlocks).1 hlock
      rw [of_decide_eq_true hid] at hread
      obtain ⟨runs, hruns⟩ := h.runs u hu l hread hexpired
      exact ⟨_, Query.bind_eq_ok.2 ⟨runs, hruns, rfl⟩⟩
  have hnode (u : TaskRecord) (hu : u ∈ tasks) :
      ∃ row, treeNode (state.map ActiveTaskState.taskId) live false u s = .ok row := by
    obtain ⟨stage, hstage⟩ := hstage hu
    exact ⟨_, Query.bind_eq_ok.2 ⟨stage, hstage, Query.bind_eq_ok.2 ⟨.null, rfl, rfl⟩⟩⟩
  obtain ⟨rows, hrows⟩ := Query.mapM_loads hnode
  obtain ⟨row, hrow, hshown⟩ := Query.given_mapM hrows ht
  refine ⟨rows, row, ?_, hrow, treeNode_eq_ok hs hlocks hlive hshown⟩
  refine Query.bind_eq_ok.2 ⟨state, hstate, Query.bind_eq_ok.2 ⟨some tasks, h.shown, ?_⟩⟩
  refine Query.bind_eq_ok.2 ⟨releases, hreleases, Query.bind_eq_ok.2 ⟨locks, hlocks, ?_⟩⟩
  exact Query.bind_eq_ok.2 ⟨live, hlive, Query.bind_eq_ok.2 ⟨rows, hrows, rfl⟩⟩

-- ════════════════════════════════════════════════════════════════════════
-- The rows of the monitor
-- ════════════════════════════════════════════════════════════════════════

omit [Runtime] in
theorem statusToActiveStage_eq_none {status : TaskStatusStage} :
    statusToActiveStage status = none ↔ status ∉ activeTaskStages := by
  cases status <;> decide

omit [Runtime] in
theorem mem_visibleSummaries : t ∈ visibleSummaries s ↔
    t ∈ s.tasks.files ∧ isArchivedTask t = false := by
  rw [visibleSummaries, mem_sortedBy, List.mem_filter, Bool.not_eq_true']

theorem rankedSummaries_eq_ok {summaries : List TaskRecord}
    {ranked : List ((ℤ ×ₗ String) × TaskRecord)} (h : rankedSummaries summaries = .ok ranked) :
    ranked.map Prod.snd = summaries ∧
      ∀ t ∈ summaries, ∃ rank, priorityRank t.priority = .ok rank := by
  induction summaries generalizing ranked with
  | nil =>
    obtain rfl : [] = ranked := Except.ok.inj h
    exact ⟨rfl, fun _ ht => absurd ht List.not_mem_nil⟩
  | cons first rest ih =>
    obtain ⟨rank, hrank, h⟩ := bind_eq_ok.1 h
    obtain ⟨others, hothers, h⟩ := bind_eq_ok.1 h
    obtain rfl : (rank, first) :: others = ranked := pure_eq_ok.1 h
    obtain ⟨hsame, hall⟩ := ih hothers
    exact ⟨congrArg (first :: ·) hsame, List.forall_mem_cons.2 ⟨⟨rank, hrank⟩, hall⟩⟩

theorem rankedSummaries_loads {summaries : List TaskRecord}
    (h : ∀ t ∈ summaries, ∃ rank, priorityRank t.priority = .ok rank) :
    ∃ ranked, rankedSummaries summaries = .ok ranked := by
  induction summaries with
  | nil => exact ⟨[], rfl⟩
  | cons first rest ih =>
    obtain ⟨⟨rank, hrank⟩, hrest⟩ := List.forall_mem_cons.1 h
    obtain ⟨others, hothers⟩ := ih hrest
    exact ⟨_, bind_eq_ok.2 ⟨rank, hrank, bind_eq_ok.2 ⟨others, hothers, rfl⟩⟩⟩

variable {stages : List TaskStatusStage} {rows : List Dict}

/-- The rows of the tasks in some stages, which can be ranked. -/
theorem rowsIn_eq_ok (h : rowsIn stages s = .ok rows) :
    (∀ row, row ∈ rows ↔ ∃ t ∈ s.tasks.files, isArchivedTask t = false ∧
      t.statusStage ∈ stages ∧ summaryToRow t = row) ∧
    ∀ t ∈ s.tasks.files, isArchivedTask t = false → t.statusStage ∈ stages →
      ∃ rank, priorityRank t.priority = .ok rank := by
  obtain ⟨ranked, hranked, h⟩ := bind_eq_ok.1 h
  cases pure_eq_ok.1 h
  obtain ⟨hsame, hall⟩ := rankedSummaries_eq_ok hranked
  have hmem (t : TaskRecord) : (∃ r ∈ ranked, r.2 = t) ↔
      t ∈ s.tasks.files ∧ isArchivedTask t = false ∧ t.statusStage ∈ stages := by
    rw [← List.mem_map, hsame, List.mem_filter, mem_visibleSummaries, decide_eq_true_eq, and_assoc]
  refine ⟨fun row => ?_, fun t ht hvisible hstage => hall t ?_⟩
  · rw [List.mem_map]
    constructor
    · rintro ⟨r, hr, rfl⟩
      obtain ⟨ht, hvisible, hstage⟩ := (hmem r.2).1 ⟨r, (List.mem_insertionSort _).1 hr, rfl⟩
      exact ⟨r.2, ht, hvisible, hstage, rfl⟩
    · rintro ⟨t, ht, hvisible, hstage, rfl⟩
      obtain ⟨r, hr, rfl⟩ := (hmem t).2 ⟨ht, hvisible, hstage⟩
      exact ⟨r, (List.mem_insertionSort _).2 hr, rfl⟩
  · exact List.mem_filter.2 ⟨mem_visibleSummaries.2 ⟨ht, hvisible⟩, decide_eq_true hstage⟩

theorem rowsIn_loads (h : ∀ t ∈ s.tasks.files, isArchivedTask t = false →
    t.statusStage ∈ stages → ∃ rank, priorityRank t.priority = .ok rank) :
    ∃ rows, rowsIn stages s = .ok rows := by
  obtain ⟨ranked, hranked⟩ := rankedSummaries_loads fun t ht => by
    obtain ⟨ht, hstage⟩ := List.mem_filter.1 ht
    obtain ⟨ht, hvisible⟩ := mem_visibleSummaries.1 ht
    exact h t ht hvisible (of_decide_eq_true hstage)
  exact ⟨_, bind_eq_ok.2 ⟨ranked, hranked, rfl⟩⟩

theorem monitorTaskSummary_eq_ok {task : FocusedTask}
    (h : monitorTaskSummary env w.guidance t w.ledger = .ok task) :
    w.Focuses env t ∧ ∃ lock runs, readLock t.id w.ledger = .ok lock ∧
      listRuns t.id w.ledger = .ok runs ∧ task.row = monitorRow t
        (stageValue ((deriveActiveStage lock runs).or (statusToActiveStage t.statusStage))) := by
  simp only [monitorTaskSummary, Query.bind_eq_ok, Query.pure_eq_ok] at h
  obtain ⟨lock, hlock, runs, hruns, todos, htodos, next, hnext, rfl⟩ := h
  exact ⟨⟨⟨_, hruns⟩, ⟨_, htodos⟩, ⟨_, hnext⟩⟩, lock, runs, hlock, hruns, rfl⟩

/-- The subject of the monitor is a resolved task, or no task is active. -/
theorem monitorSubject_eq_ok {taskRef : Option String} {selected : Option TaskRecord}
    (h : monitorSubject taskRef s = .ok selected) :
    (selected = none ∧ loadActiveTaskState s = .ok none) ∨
      ∃ ref t, selected = some t ∧ resolveTask ref false s = .ok t := by
  cases taskRef with
  | some ref =>
    obtain ⟨t, ht, h⟩ := Query.bind_eq_ok.1 h
    exact .inr ⟨ref, t, (Query.pure_eq_ok.1 h).symm, ht⟩
  | none =>
    obtain ⟨state, hstate, h⟩ := Query.bind_eq_ok.1 h
    cases state with
    | none => exact .inl ⟨(Query.pure_eq_ok.1 h).symm, hstate⟩
    | some active =>
      obtain ⟨t, ht, h⟩ := Query.bind_eq_ok.1 h
      exact .inr ⟨active.taskId, t, (Query.pure_eq_ok.1 h).symm, ht⟩

theorem monitorTaskSummary_loads {lock : Option TaskLock}
    (hlock : readLock t.id w.ledger = .ok lock) (h : w.Focuses env t) :
    ∃ task, monitorTaskSummary env w.guidance t w.ledger = .ok task := by
  obtain ⟨⟨runs, hruns⟩, ⟨todos, htodos⟩, ⟨next, hnext⟩⟩ := h
  simp only [monitorTaskSummary, Query.bind_eq_ok, Query.pure_eq_ok]
  exact ⟨_, lock, hlock, runs, hruns, todos, htodos, next, hnext, rfl⟩

end Stages

-- ════════════════════════════════════════════════════════════════════════
-- What the views report
-- ════════════════════════════════════════════════════════════════════════

section Reports

variable [Runtime] [EventJson] {env : Env} {id : String} {w : Workspace}

/-- `dashboard` in a workspace. -/
def Workspace.dashboard (w : Workspace) (env : Env) (ref : Option String) :
    Except Raised DashboardPayload :=
  Taskledger.dashboard env w.guidance (EventLog.loadEvents (utcNow env) w.eventsDir w.logs) ref
    w.ledger

/-- `monitor_snapshot` in a workspace. -/
def Workspace.monitor (w : Workspace) (env : Env) (args : MonitorArguments) :
    Except Raised MonitorSnapshot :=
  monitorSnapshot env w.guidance (EventLog.loadRecentEvents (utcNow env) w.eventsDir w.logs) args
    w.ledger

/-- A view that is shown reports an active stage of the task with an id. -/
inductive Reports (env : Env) (w : Workspace) (id : String) : Value → Prop
  | payload {ref : String} {includeArchived : Bool} {view : TaskView}
      (hview : showTask env ref includeArchived w.ledger = .ok view)
      (hid : view.task.get "id" = .str id) : Reports env w id (view.task.get "active_stage")
  | dashboard {ref : Option String} {view : DashboardPayload}
      (hview : w.dashboard env ref = .ok view)
      (hid : view.taskSection.get "id" = .str id) :
      Reports env w id (view.taskSection.get "active_stage")
  | tree {fuel : ℕ} {options : TreeOptions} {rows : List Dict} {row : Dict}
      (hview : treeNodes env fuel options w.ledger = .ok (some rows)) (hrow : row ∈ rows)
      (hid : row.get "id" = .str id) : Reports env w id (row.get "active_stage")
  | focus {args : MonitorArguments} {view : MonitorSnapshot} {task : FocusedTask}
      (hview : w.monitor env args = .ok view) (hactive : view.active = some task)
      (hid : task.row.get "task_id" = .str id) : Reports env w id (task.row.get "active_stage")
  | row {args : MonitorArguments} {view : MonitorSnapshot} {row : Dict}
      (hview : w.monitor env args = .ok view) (hrow : row ∈ view.inProgress ++ view.ready)
      (hid : row.get "task_id" = .str id) : Reports env w id (row.get "active_stage")

/-- All views report one active stage for each task, and the group in progress consists of
the tasks with one. -/
def ViewsAgree (env : Env) (w : Workspace) : Prop :=
  ∀ id, (∀ a b, Reports env w id a → Reports env w id b → a = b) ∧
    ∀ args view, w.monitor env args = .ok view →
      ((∃ row ∈ view.inProgress, row.get "task_id" = .str id) ↔
        ∃ a, Reports env w id a ∧ a ≠ .null)

/-- The dashboard of a task reads what the monitor reads of it. -/
theorem dashboard_shows {ref : Option String} {view : DashboardPayload}
    (h : w.dashboard env ref = .ok view) :
    ∃ ref t, resolveTask ref false w.ledger = .ok t ∧ w.Focuses env t ∧
      ShowsStage env w.ledger t view.taskSection := by
  simp only [Workspace.dashboard, dashboard, Query.bind_eq_ok, Query.pure_eq_ok] at h
  obtain ⟨task, htask, lock, hlock, plans, -, questions, -, runs, hruns, changes, -, checks, -,
    stage, hstage, next, hnext, todos, htodos, validation, -, events, -, rfl⟩ := h
  have hresolved : ∃ ref, resolveTask ref false w.ledger = .ok task := by
    cases ref with
    | none => exact resolveActiveTask_eq_ok htask
    | some ref => exact ⟨ref, htask⟩
  obtain ⟨found, hfound⟩ := hresolved
  exact ⟨found, task, hfound, ⟨⟨_, hruns⟩, ⟨_, htodos⟩, ⟨_, hnext⟩⟩, stage,
    taskActiveStage_of_read hlock hruns hstage, rfl, rfl⟩

/-- Where the monitor is shown it can be shown: its task in focus is a resolved one, and its
rows are ranked. -/
theorem monitor_eq_ok {args : MonitorArguments} {view : MonitorSnapshot}
    (h : w.monitor env args = .ok view) :
    w.Monitored env ∧
    (∀ task, view.active = some task → ∃ ref t, resolveTask ref false w.ledger = .ok t ∧
      monitorTaskSummary env w.guidance t w.ledger = .ok task) ∧
    rowsIn activeTaskStages w.ledger = .ok view.inProgress ∧
    ∃ rows, rowsIn readyStatuses w.ledger = .ok rows ∧ view.ready = sliceTo args.maxReady rows := by
  obtain ⟨selected, hselected, h⟩ := Query.bind_eq_ok.1 h
  obtain ⟨inProgress, hprogress, h⟩ := Query.bind_eq_ok.1 h
  obtain ⟨ready, hready, h⟩ := Query.bind_eq_ok.1 h
  obtain ⟨events, -, h⟩ := Query.bind_eq_ok.1 h
  obtain ⟨active, hactive, h⟩ := Query.bind_eq_ok.1 h
  cases Query.pure_eq_ok.1 h
  have hranked : ∀ t ∈ w.ledger.tasks.files, isArchivedTask t = false →
      t.statusStage ∈ activeTaskStages ++ readyStatuses →
      ∃ rank, priorityRank t.priority = .ok rank := fun t ht hvisible hstage =>
    (List.mem_append.1 hstage).elim ((rowsIn_eq_ok hprogress).2 t ht hvisible)
      ((rowsIn_eq_ok hready).2 t ht hvisible)
  rcases monitorSubject_eq_ok hselected with ⟨rfl, hstate⟩ | ⟨ref, t, rfl, ht⟩
  · cases Query.pure_eq_ok.1 hactive
    refine ⟨⟨hranked, .inl hstate⟩, fun task hnone => ?_, hprogress, ready, hready, rfl⟩
    exact absurd hnone (Option.some_ne_none task).symm
  · obtain ⟨summary, hsummary, hactive⟩ := Query.bind_eq_ok.1 hactive
    cases Query.pure_eq_ok.1 hactive
    have hfocuses := (monitorTaskSummary_eq_ok hsummary).1
    refine ⟨⟨hranked, .inr ⟨ref, t, ht, hfocuses⟩⟩, ?_, hprogress, ready, hready, rfl⟩
    rintro task ⟨⟩
    exact ⟨ref, t, ht, hsummary⟩

/-- The monitor of a subject that can be read. -/
theorem monitor_loads {taskRef : Option String} {selected : Option TaskRecord}
    {active : Option FocusedTask} (h : w.Monitored env)
    (hselected : monitorSubject taskRef w.ledger = .ok selected)
    (hactive : monitorActive env w.guidance selected w.ledger = .ok active) :
    ∃ view, w.monitor env { taskRef := taskRef, maxEvents := 0 } = .ok view ∧
      view.active = active := by
  obtain ⟨inProgress, hprogress⟩ := rowsIn_loads (s := w.ledger) fun t ht hvisible hstage =>
    h.ranked t ht hvisible (List.mem_append_left readyStatuses hstage)
  obtain ⟨ready, hready⟩ := rowsIn_loads (s := w.ledger) fun t ht hvisible hstage =>
    h.ranked t ht hvisible (List.mem_append_right activeTaskStages hstage)
  refine ⟨_, Query.bind_eq_ok.2 ⟨selected, hselected, Query.bind_eq_ok.2 ⟨inProgress, hprogress,
    Query.bind_eq_ok.2 ⟨ready, hready, Query.bind_eq_ok.2 ⟨[], ?_, Query.bind_eq_ok.2
      ⟨active, hactive, rfl⟩⟩⟩⟩⟩, rfl⟩
  exact Query.liftM_eq_ok.2 (if_pos (le_refl (0 : ℤ)))

/-- The monitor focuses on a task that can be read. -/
theorem monitor_focuses (hs : w.ledger.Sound) (h : w.Monitored env) {ref : String} {t : TaskRecord}
    (ht : resolveTask ref false w.ledger = .ok t) (hfocuses : w.Focuses env t) :
    ∃ args view task, w.monitor env args = .ok view ∧ view.active = some task ∧
      monitorTaskSummary env w.guidance t w.ledger = .ok task := by
  obtain ⟨lock, hlock⟩ := readLock_loads hs t.id
  obtain ⟨task, htask⟩ := monitorTaskSummary_loads hlock hfocuses
  have hselected : monitorSubject (some ref) w.ledger = .ok (some t) :=
    Query.bind_eq_ok.2 ⟨t, ht, rfl⟩
  obtain ⟨view, hview, hactive⟩ :=
    monitor_loads h hselected (Query.bind_eq_ok.2 ⟨task, htask, rfl⟩)
  exact ⟨_, view, task, hview, hactive, htask⟩

/-- Where the monitor can be shown it is shown. -/
theorem monitor_shown (hs : w.ledger.Sound) (h : w.Monitored env) :
    ∃ args view, w.monitor env args = .ok view := by
  rcases h.subject with hstate | ⟨ref, t, ht, hfocuses⟩
  · have hselected : monitorSubject none w.ledger = .ok none :=
      Query.bind_eq_ok.2 ⟨none, hstate, rfl⟩
    obtain ⟨view, hview, -⟩ := monitor_loads h hselected rfl
    exact ⟨_, view, hview⟩
  · obtain ⟨args, view, -, hview, -⟩ := monitor_focuses hs h ht hfocuses
    exact ⟨args, view, hview⟩

/-- The group in progress goes by the stage of the task file alone. -/
theorem mem_inProgress {args : MonitorArguments} {view : MonitorSnapshot}
    (h : w.monitor env args = .ok view) :
    (∃ row ∈ view.inProgress, row.get "task_id" = .str id) ↔
      ∃ t ∈ w.ledger.tasks.files, t.id = id ∧ isArchivedTask t = false ∧
        t.statusStage ∈ activeTaskStages := by
  obtain ⟨-, -, hprogress, -⟩ := monitor_eq_ok h
  have hmem := (rowsIn_eq_ok hprogress).1
  constructor
  · rintro ⟨row, hrow, hid⟩
    obtain ⟨t, ht, hvisible, hstage, rfl⟩ := (hmem row).1 hrow
    exact ⟨t, ht, Value.str.inj hid, hvisible, hstage⟩
  · rintro ⟨t, ht, rfl, hvisible, hstage⟩
    exact ⟨summaryToRow t, (hmem _).2 ⟨t, ht, hvisible, hstage, rfl⟩, rfl⟩

/-- The rows of the monitor report no active stage. -/
theorem row_active_stage {args : MonitorArguments} {view : MonitorSnapshot} {row : Dict}
    (h : w.monitor env args = .ok view) (hrow : row ∈ view.inProgress ++ view.ready) :
    row.get "active_stage" = .null := by
  obtain ⟨-, -, hprogress, ready, hready, hsliced⟩ := monitor_eq_ok h
  rcases List.mem_append.1 hrow with hrow | hrow
  · obtain ⟨t, -, -, -, rfl⟩ := ((rowsIn_eq_ok hprogress).1 row).1 hrow
    rfl
  · rw [hsliced] at hrow
    obtain ⟨t, -, -, -, rfl⟩ := ((rowsIn_eq_ok hready).1 row).1 (List.mem_of_mem_take hrow)
    rfl

-- ════════════════════════════════════════════════════════════════════════
-- When the views agree
-- ════════════════════════════════════════════════════════════════════════

/-- What no monitor reports is the stage of a live lock. -/
theorem reports_shown (hs : w.ledger.Sound) (h : ¬ w.Monitored env) {a : Value}
    (ha : Reports env w id a) : ∃ t row, ShowsStage env w.ledger t row ∧ t.id = id ∧
      row.get "active_stage" = a := by
  cases ha with
  | payload hview hid =>
    obtain ⟨t, -, -, -, hrow⟩ := showTask_eq_ok hview
    exact ⟨t, _, hrow, hrow.id_eq hid, rfl⟩
  | dashboard hview hid =>
    obtain ⟨-, t, -, -, hrow⟩ := dashboard_shows hview
    exact ⟨t, _, hrow, hrow.id_eq hid, rfl⟩
  | tree hview hmem hid =>
    obtain ⟨tasks, -, hrows⟩ := treeNodes_eq_ok hs hview
    obtain ⟨t, -, hrow⟩ := hrows _ hmem
    exact ⟨t, _, hrow, hrow.id_eq hid, rfl⟩
  | focus hview => exact absurd (monitor_eq_ok hview).1 h
  | row hview => exact absurd (monitor_eq_ok hview).1 h

theorem reports_atRest (hs : w.ledger.Sound) (hrest : w.AtRest env) {a : Value}
    (h : Reports env w id a) : a = .null := by
  cases h with
  | payload hview =>
    obtain ⟨t, shown, ht, hshown, hrow⟩ := showTask_eq_ok hview
    exact shows_atRest hrow fun lock _ hlock _ hlive => by
      cases hlive.symm.trans (hrest.shown _ _ t shown lock ht hshown hlock)
  | dashboard hview =>
    obtain ⟨ref, t, ht, hfocuses, hrow⟩ := dashboard_shows hview
    exact shows_atRest hrow fun lock _ hlock _ _ => by
      cases hlock.symm.trans (hrest.focused ref t ht hfocuses).1
  | tree hview hmem =>
    obtain ⟨tasks, hdraws, hrows⟩ := treeNodes_eq_ok hs hview
    obtain ⟨t, ht, hrow⟩ := hrows _ hmem
    exact shows_atRest hrow fun lock _ hlock _ hlive => by
      cases hlive.symm.trans (hrest.drawn _ _ tasks hdraws t ht lock hlock)
  | focus hview hactive =>
    obtain ⟨-, hfocused, -⟩ := monitor_eq_ok hview
    obtain ⟨ref, t, ht, htask⟩ := hfocused _ hactive
    obtain ⟨hfocuses, lock, runs, hlock, hruns, hrow⟩ := monitorTaskSummary_eq_ok htask
    obtain ⟨hunlocked, hstage⟩ := hrest.focused ref t ht hfocuses
    cases hlock.symm.trans hunlocked
    rw [← statusToActiveStage_eq_none] at hstage
    rw [hrow, hstage]
    rfl
  | row hview hmem => exact row_active_stage hview hmem

/-- While the views agree where the monitor can be shown, none of them reports a stage: its rows
in progress do not. -/
theorem reports_of_agree (hs : w.ledger.Sound) (hmonitored : w.Monitored env)
    (h : ViewsAgree env w) {a : Value} (ha : Reports env w id a) : a = .null := by
  obtain ⟨args, view, hview⟩ := monitor_shown hs hmonitored
  by_contra hne
  obtain ⟨row, hrow, hid⟩ := ((h id).2 args view hview).2 ⟨a, ha, hne⟩
  have hmem : row ∈ view.inProgress ++ view.ready := List.mem_append_left _ hrow
  exact hne (((h id).1 a _ ha (.row hview hmem hid)).trans (row_active_stage hview hmem))

/-- A workspace whose views agree is at rest, where the monitor can be shown. -/
theorem atRest_of_agree (hs : w.ledger.Sound) (hmonitored : w.Monitored env)
    (h : ViewsAgree env w) : w.AtRest env := by
  have hnull {id : String} {a : Value} (ha : Reports env w id a) : a = .null :=
    reports_of_agree hs hmonitored h ha
  refine ⟨fun t ht hvisible hstage => ?_, fun ref t ht hfocuses => ?_,
    fun ref includeArchived t shown lock ht hshows hlock => ?_,
    fun fuel options tasks hdraws t ht lock hlock => ?_⟩
  · obtain ⟨args, view, hview⟩ := monitor_shown hs hmonitored
    obtain ⟨a, ha, hne⟩ := ((h t.id).2 args view hview).1
      ((mem_inProgress hview).2 ⟨t, ht, rfl, hvisible, hstage⟩)
    exact hne (hnull ha)
  · obtain ⟨args, view, task, hview, hactive, htask⟩ := monitor_focuses hs hmonitored ht hfocuses
    obtain ⟨-, lock, runs, hlock, hruns, hrow⟩ := monitorTaskSummary_eq_ok htask
    have hreport := hnull (.focus hview hactive (by rw [hrow]; rfl))
    rw [hrow] at hreport
    obtain ⟨hderive, hstatus⟩ := Option.or_eq_none_iff.1 (stageValue_eq_null.1 hreport)
    refine ⟨?_, statusToActiveStage_eq_none.1 hstatus⟩
    cases lock with
    | none => exact hlock
    | some l => exact absurd hderive (deriveActiveStage_of_locked hs hlock hruns)
  · obtain ⟨expired, hexpired⟩ := told_of_sound hs hlock
    cases expired with
    | true => exact hexpired
    | false =>
      obtain ⟨view, runs, hview, hruns, hid, hstage⟩ := showTask_shows ht hshows hlock hexpired
      have hreport := hnull (.payload hview hid)
      rw [hstage, stageValue_eq_null] at hreport
      exact absurd hreport (deriveActiveStage_of_locked hs hlock hruns)
  · obtain ⟨expired, hexpired⟩ := told_of_sound hs hlock
    cases expired with
    | true => exact hexpired
    | false =>
      obtain ⟨rows, row, hview, hrow, stage, hstage, hid, hreport⟩ := treeNodes_draws hs hdraws ht
      have hnone := hnull (.tree hview hrow hid)
      rw [hreport, stageValue_eq_null] at hnone
      obtain ⟨runs, hruns⟩ := listRuns_of_live hstage hlock hexpired
      have hlive := taskActiveStage_of_read hlock hruns (stageOfLock_live hexpired)
      rw [hstage, hnone] at hlive
      exact absurd (Except.ok.inj hlive).symm (deriveActiveStage_of_locked hs hlock hruns)

/-- The views agree on the active stages just while nothing is under way, or the monitor cannot
be shown. -/
theorem views_agree_iff (hreachable : w.ledger.Reachable) :
    ViewsAgree env w ↔ (w.Monitored env → w.AtRest env) := by
  have hs := hreachable.sound
  constructor
  · exact fun h hmonitored => atRest_of_agree hs hmonitored h
  · intro h id
    by_cases hmonitored : w.Monitored env
    · have hrest := h hmonitored
      refine ⟨fun a b ha hb => ?_, fun args view hview => iff_of_false (fun hrow => ?_) ?_⟩
      · rw [reports_atRest hs hrest ha, reports_atRest hs hrest hb]
      · obtain ⟨t, ht, -, hvisible, hstage⟩ := (mem_inProgress hview).1 hrow
        exact hrest.stages t ht hvisible hstage
      · rintro ⟨a, ha, hne⟩
        exact hne (reports_atRest hs hrest ha)
    · refine ⟨fun a b ha hb => ?_, fun args view hview => absurd (monitor_eq_ok hview).1 hmonitored⟩
      obtain ⟨t, row, ⟨stage, hstage, -, hrow⟩, hid, rfl⟩ := reports_shown hs hmonitored ha
      obtain ⟨t', row', ⟨stage', hstage', -, hrow'⟩, hid', rfl⟩ := reports_shown hs hmonitored hb
      rw [taskActiveStage_congr (hid'.trans hid.symm)] at hstage'
      rw [hrow, hrow', Except.ok.inj (hstage.symm.trans hstage')]

end Reports

section Evaluation

attribute [local instance] plainRuntime plainJson

/-- A ledger after some operations, without event logs. -/
def workspaceAfter (ops : List Op) : Workspace where
  ledger := afterOps ops
  logs := .empty

theorem views_agree_iff_proposed :
    (afterOps proposedOps).Reachable ∧ (workspaceAfter proposedOps).Monitored plainEnv ∧
      ViewsAgree plainEnv (workspaceAfter proposedOps) := by
  have hreachable : (afterOps proposedOps).Reachable := reachable_afterOps _
  have hlocks : (afterOps proposedOps).locks.files = [] := by decide
  have hstages : ∀ t ∈ (afterOps proposedOps).tasks.files,
      t.statusStage ∉ activeTaskStages := by decide
  have hunlocked (id : String) : readLock id (afterOps proposedOps) = .ok none := by
    have hnone : (afterOps proposedOps).locks.lookup id = none := by
      rw [Directory.lookup_eq_none_iff, hlocks]
      simp
    simp [readLock, hnone]
  have hview : ((workspaceAfter proposedOps).monitor plainEnv {}).toOption.isSome = true := by
    decide +kernel
  obtain ⟨view, hview⟩ := isSome_toOption.1 hview
  refine ⟨hreachable, (monitor_eq_ok hview).1, (views_agree_iff hreachable).2 fun _ => ?_⟩
  refine ⟨fun t ht _ => hstages t ht, fun ref t ht _ => ⟨hunlocked t.id, ?_⟩,
    fun ref includeArchived t shown lock _ _ hlock => ?_,
    fun fuel options tasks _ t _ lock hlock => ?_⟩
  · obtain ⟨stored, hstored, hreload⟩ := resolveTask_stored ht
    have hstage : t.statusStage = stored.statusStage :=
      congrArg TaskCore.stage (core_of_reload_task hreload)
    rw [hstage]
    exact hstages stored (Directory.mem_of_lookup hstored)
  · cases hlock.symm.trans (hunlocked t.id)
  · cases hlock.symm.trans (hunlocked t.id)

/-- A task that is being planned. -/
def draftPlanningOps : List Op :=
  [.createTask { title := "A", description := "d" }, .startPlanning "task-0001" none none]

/-- The dashboard reports the planning stage, and nothing is in progress. -/
theorem dashboard_reports_nothing_in_progress :
    (afterOps draftPlanningOps).Reachable ∧
      ¬ ViewsAgree plainEnv (workspaceAfter draftPlanningOps) := by
  have hreachable : (afterOps draftPlanningOps).Reachable := reachable_afterOps _
  refine ⟨hreachable, fun h => ?_⟩
  have hviews : ((workspaceAfter draftPlanningOps).monitor plainEnv {}).toOption.isSome = true ∧
      (((workspaceAfter draftPlanningOps).dashboard plainEnv (some "task-0001")).toOption.map
        fun d => ((d.taskSection.get "id").asString?, (d.taskSection.get "active_stage").asString?)) =
        some (some "task-0001", some "planning") := by decide +kernel
  obtain ⟨hmonitor, hdashboard⟩ := hviews
  obtain ⟨view, hview⟩ := isSome_toOption.1 hmonitor
  obtain ⟨d, hd, hshown⟩ := map_toOption_eq_some.1 hdashboard
  obtain ⟨hid, hstage⟩ := Prod.mk.inj hshown
  have hnull := reports_of_agree hreachable.sound (monitor_eq_ok hview).1 h
    (.dashboard hd (Value.asString?_eq_some.1 hid))
  rw [hnull] at hstage
  cases hstage

end Evaluation

end Taskledger
